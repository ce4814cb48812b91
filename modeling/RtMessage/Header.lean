import RtMessage.Base
import RtMessage.Lib.BigEndian

/- `rtEncoder` and `rtMessageHeader`: the fixed-layout header every message
   carries on the wire, and the frames made of a header and its payload.

   A decoder is given the bytes from `*itr` to the end of the buffer and returns
   the value with the bytes after it; reading past the end of the buffer, or
   writing past the end of a topic array, is undefined behaviour. `int32_t` and
   `uint32_t` are the same 32 bits, so both codecs work on `UInt32`. -/
namespace RtMessage
open Lib.BigEndian

/-- `n` bytes read at the front of `itr`, and the rest. -/
def readBytes (itr : Bytes) (n : Nat) : Except Fault (Bytes × Bytes) :=
  if n ≤ itr.length then .ok (itr.take n, itr.drop n) else .error .undefinedBehaviour

theorem readBytes_append {a : Bytes} {n : Nat} (h : a.length = n) (b : Bytes) :
    readBytes (a ++ b) n = .ok (a, b) := by
  subst h; simp [readBytes]

def rtEncoderEncodeUInt16 (n : UInt16) : Bytes := toBytes 2 n.toNat
def rtEncoderEncodeInt32 (n : UInt32) : Bytes := toBytes 4 n.toNat
def rtEncoderEncodeString (s : Bytes) : Bytes :=
  rtEncoderEncodeInt32 (UInt32.ofNat s.length) ++ s

def rtEncoderDecodeUInt16 (itr : Bytes) : Except Fault (UInt16 × Bytes) := do
  let (b, itr) ← readBytes itr 2
  return (UInt16.ofNat (ofBytes b), itr)

def rtEncoderDecodeInt32 (itr : Bytes) : Except Fault (UInt32 × Bytes) := do
  let (b, itr) ← readBytes itr 4
  return (UInt32.ofNat (ofBytes b), itr)

def rtEncoderDecodeString {n : Nat} (itr : Bytes) (s : CArray n) :
    Except Fault (CArray n × UInt32 × Bytes) := do
  let (len, itr) ← rtEncoderDecodeInt32 itr
  let (b, itr) ← readBytes itr len.toNat
  let s ← s.memcpy b
  return (s, len, itr)

@[simp] theorem encodeUInt16_length (n : UInt16) : (rtEncoderEncodeUInt16 n).length = 2 := by
  simp [rtEncoderEncodeUInt16]

@[simp] theorem encodeInt32_length (n : UInt32) : (rtEncoderEncodeInt32 n).length = 4 := by
  simp [rtEncoderEncodeInt32]

@[simp] theorem encodeString_length (s : Bytes) :
    (rtEncoderEncodeString s).length = 4 + s.length := by
  simp [rtEncoderEncodeString]

@[simp] theorem decodeUInt16_encode (n : UInt16) (rest : Bytes) :
    rtEncoderDecodeUInt16 (rtEncoderEncodeUInt16 n ++ rest) = .ok (n, rest) := by
  have hn : n.toNat < 256^2 := n.toNat_lt
  simp only [rtEncoderDecodeUInt16, readBytes_append (encodeUInt16_length n) rest]
  simp [bind, Except.bind, pure, Except.pure, rtEncoderEncodeUInt16, ofBytes_toBytes_of_lt hn]

@[simp] theorem decodeInt32_encode (n : UInt32) (rest : Bytes) :
    rtEncoderDecodeInt32 (rtEncoderEncodeInt32 n ++ rest) = .ok (n, rest) := by
  have hn : n.toNat < 256^4 := n.toNat_lt
  simp only [rtEncoderDecodeInt32, readBytes_append (encodeInt32_length n) rest]
  simp [bind, Except.bind, pure, Except.pure, rtEncoderEncodeInt32, ofBytes_toBytes_of_lt hn]

theorem encodeUInt16_inj {a b : UInt16} (h : rtEncoderEncodeUInt16 a = rtEncoderEncodeUInt16 b) :
    a = b := by
  have ha := decodeUInt16_encode a []
  rw [h, decodeUInt16_encode] at ha
  exact (Prod.mk.inj (Except.ok.inj ha)).1.symm

theorem decodeString_encode {n : Nat} {s : Bytes} (h : s.length ≤ n) (hn : n < 2^32)
    (rest : Bytes) : rtEncoderDecodeString (rtEncoderEncodeString s ++ rest) (.zero n) =
      .ok (.pad n s, UInt32.ofNat s.length, rest) := by
  have hl : (UInt32.ofNat s.length).toNat = s.length :=
    UInt32.toNat_ofNat_of_lt' (Nat.lt_of_le_of_lt h hn)
  simp only [rtEncoderDecodeString, rtEncoderEncodeString, List.append_assoc, decodeInt32_encode]
  simp only [bind, Except.bind, hl, readBytes_append rfl, CArray.memcpy_zero h, pure, Except.pure]

/-! rtMessageHeader. -/

def RTMSG_HEADER_VERSION : UInt16 := 1
abbrev RTMSG_HEADER_MAX_TOPIC_LENGTH : Nat := 128
def rtMessageFlagsRequest : UInt32 := 0x01
def rtMessageFlagsResponse : UInt32 := 0x02

structure RtMessageHeader where
  version : UInt16
  headerLength : UInt16
  sequenceNumber : UInt32
  flags : UInt32
  controlData : UInt32
  payloadLength : UInt32
  topicLength : UInt32
  topic : CArray RTMSG_HEADER_MAX_TOPIC_LENGTH
  replyTopicLength : UInt32
  replyTopic : CArray RTMSG_HEADER_MAX_TOPIC_LENGTH
  deriving DecidableEq, Repr

def rtMessageHeaderInit : RtMessageHeader where
  version := RTMSG_HEADER_VERSION
  headerLength := 0
  sequenceNumber := 0
  flags := 0
  controlData := 0
  payloadLength := 0
  topicLength := 0
  topic := .zero RTMSG_HEADER_MAX_TOPIC_LENGTH
  replyTopicLength := 0
  replyTopic := .zero RTMSG_HEADER_MAX_TOPIC_LENGTH

/-- Encoding also stores the length in the header it is given. -/
def rtMessageHeaderEncode (hdr : RtMessageHeader) : RtMessageHeader × Bytes :=
  let length := UInt16.ofNat (28 + hdr.topic.str.length + hdr.replyTopic.str.length)
  let hdr := { hdr with headerLength := length }
  (hdr, rtEncoderEncodeUInt16 RTMSG_HEADER_VERSION ++ (rtEncoderEncodeUInt16 hdr.headerLength ++
    (rtEncoderEncodeInt32 hdr.sequenceNumber ++ (rtEncoderEncodeInt32 hdr.flags ++
    (rtEncoderEncodeInt32 hdr.controlData ++ (rtEncoderEncodeInt32 hdr.payloadLength ++
    (rtEncoderEncodeString hdr.topic.str ++ rtEncoderEncodeString hdr.replyTopic.str)))))))

/-- The strings are stored over the arrays' old content, with no NUL after them. -/
def rtMessageHeaderDecode (hdr : RtMessageHeader) (buff : Bytes) :
    Except Fault RtMessageHeader := do
  let (version, ptr) ← rtEncoderDecodeUInt16 buff
  let (headerLength, ptr) ← rtEncoderDecodeUInt16 ptr
  let (sequenceNumber, ptr) ← rtEncoderDecodeInt32 ptr
  let (flags, ptr) ← rtEncoderDecodeInt32 ptr
  let (controlData, ptr) ← rtEncoderDecodeInt32 ptr
  let (payloadLength, ptr) ← rtEncoderDecodeInt32 ptr
  let (topic, topicLength, ptr) ← rtEncoderDecodeString ptr hdr.topic
  let (replyTopic, replyTopicLength, _) ← rtEncoderDecodeString ptr hdr.replyTopic
  return { version, headerLength, sequenceNumber, flags, controlData, payloadLength,
           topicLength, topic, replyTopicLength, replyTopic }

def rtMessageHeaderIsRequest (hdr : RtMessageHeader) : Bool :=
  hdr.flags &&& rtMessageFlagsRequest == rtMessageFlagsRequest

/-! Frames. -/

/-- A string that fits a topic array together with its NUL. -/
structure Topic where
  str : Bytes
  nul_free : 0 ∉ str
  length_le : str.length ≤ 127
  deriving DecidableEq, Repr

/-- A message as it goes over the wire, before encoding. Its length fields are those of
    its parts. -/
structure Frame where
  sequenceNumber : UInt32
  flags : UInt32
  controlData : UInt32
  topic : Topic
  replyTopic : Topic
  payload : Bytes
  payload_lt : payload.length < 2^32
  deriving DecidableEq, Repr

namespace Frame

def headerLength (f : Frame) : Nat := 28 + f.topic.str.length + f.replyTopic.str.length
def size (f : Frame) : Nat := f.headerLength + f.payload.length

/-- The frame's header, its length fields filled in. -/
def header (f : Frame) : RtMessageHeader where
  version := RTMSG_HEADER_VERSION
  headerLength := UInt16.ofNat f.headerLength
  sequenceNumber := f.sequenceNumber
  flags := f.flags
  controlData := f.controlData
  payloadLength := UInt32.ofNat f.payload.length
  topicLength := UInt32.ofNat f.topic.str.length
  topic := .pad RTMSG_HEADER_MAX_TOPIC_LENGTH f.topic.str
  replyTopicLength := UInt32.ofNat f.replyTopic.str.length
  replyTopic := .pad RTMSG_HEADER_MAX_TOPIC_LENGTH f.replyTopic.str

def headerBytes (f : Frame) : Bytes := (rtMessageHeaderEncode f.header).2
def bytes (f : Frame) : Bytes := f.headerBytes ++ f.payload

variable (f : Frame)

theorem headerLength_le : f.headerLength ≤ 282 := by
  have := f.topic.length_le; have := f.replyTopic.length_le
  simp only [headerLength]; omega

theorem headerLength_lt : f.headerLength < 2^16 := by
  have := f.headerLength_le
  omega

@[simp] theorem header_topic_str : f.header.topic.str = f.topic.str :=
  CArray.pad_str (Nat.le_succ_of_le f.topic.length_le) f.topic.nul_free

@[simp] theorem header_replyTopic_str : f.header.replyTopic.str = f.replyTopic.str :=
  CArray.pad_str (Nat.le_succ_of_le f.replyTopic.length_le) f.replyTopic.nul_free

theorem headerBytes_eq : f.headerBytes =
    rtEncoderEncodeUInt16 1 ++ (rtEncoderEncodeUInt16 (UInt16.ofNat f.headerLength) ++
    (rtEncoderEncodeInt32 f.sequenceNumber ++ (rtEncoderEncodeInt32 f.flags ++
    (rtEncoderEncodeInt32 f.controlData ++
    (rtEncoderEncodeInt32 (UInt32.ofNat f.payload.length) ++
    (rtEncoderEncodeString f.topic.str ++ rtEncoderEncodeString f.replyTopic.str)))))) := by
  simp only [headerBytes, rtMessageHeaderEncode, header_topic_str, header_replyTopic_str]
  rfl

@[simp] theorem headerBytes_length : f.headerBytes.length = f.headerLength := by
  simp only [headerBytes_eq, List.length_append, encodeUInt16_length, encodeInt32_length,
    encodeString_length, headerLength]
  omega

@[simp] theorem bytes_length : f.bytes.length = f.size := by simp [bytes, size]

@[simp] theorem header_headerLength : f.header.headerLength.toNat = f.headerLength :=
  UInt16.toNat_ofNat_of_lt' f.headerLength_lt

@[simp] theorem header_payloadLength : f.header.payloadLength.toNat = f.payload.length :=
  UInt32.toNat_ofNat_of_lt' f.payload_lt

/-- **Decoding what was encoded**, whatever follows it in the buffer. -/
theorem decode_headerBytes (rest : Bytes) :
    rtMessageHeaderDecode rtMessageHeaderInit (f.headerBytes ++ rest) = .ok f.header := by
  have ht : f.topic.str.length ≤ 128 := Nat.le_succ_of_le f.topic.length_le
  have hr : f.replyTopic.str.length ≤ 128 := Nat.le_succ_of_le f.replyTopic.length_le
  rw [headerBytes_eq]
  simp only [List.append_assoc, rtMessageHeaderDecode, decodeUInt16_encode, decodeInt32_encode,
    ok_bind]
  rw [show rtMessageHeaderInit.topic = .zero 128 from rfl,
    show rtMessageHeaderInit.replyTopic = .zero 128 from rfl,
    decodeString_encode ht (by decide), ok_bind]
  simp only [decodeString_encode hr (by decide), ok_bind, pure_eq_ok]
  rfl

/-- A frame's header can be read off any bytes that start with its header bytes. -/
theorem header_eq_of_append {f g : Frame} {x y : Bytes}
    (h : f.headerBytes ++ x = g.headerBytes ++ y) : f.header = g.header := by
  have hd := f.decode_headerBytes x
  rw [h, g.decode_headerBytes] at hd
  exact (Except.ok.inj hd).symm

theorem headerBytes_of_header {f g : Frame} (h : f.header = g.header) :
    f.headerBytes = g.headerBytes := by
  rw [headerBytes, h]
  rfl

theorem bytes_take_four : f.bytes.take 4 =
    rtEncoderEncodeUInt16 1 ++ rtEncoderEncodeUInt16 (UInt16.ofNat f.headerLength) := by
  rw [bytes, headerBytes_eq]
  simp only [List.append_assoc]
  rw [← List.append_assoc, List.take_left' (by simp)]

/-- A copy of the frame addressed to a subscription. -/
def withControlData (f : Frame) (id : UInt32) : Frame := { f with controlData := id }

@[simp] theorem withControlData_size (id : UInt32) : (f.withControlData id).size = f.size := rfl

end Frame

end RtMessage
