import RtMessage.Router

/- What `rtRouted_ForwardMessage` sends, and what it answers.

   `forward_cases` is every call that returns: the header was refused, or the header
   was taken (whole or not) and the payload was sent. `forward_complete` is the call
   whose two sends take all their bytes. -/
namespace RtMessage
open Lib

/-- The frame a subscriber is sent: the message under the subscription's id. -/
def forwardedFrame (hdr : RtMessageHeader) (buff : Bytes) (id : UInt32)
    (ht : hdr.topic.str.length ≤ 127) (hr : hdr.replyTopic.str.length ≤ 127) : Frame where
  sequenceNumber := hdr.sequenceNumber
  flags := hdr.flags
  controlData := id
  topic := ⟨hdr.topic.str, zero_not_mem_cstr _, ht⟩
  replyTopic := ⟨hdr.replyTopic.str, zero_not_mem_cstr _, hr⟩
  payload := buff.take hdr.payloadLength.toNat
  payload_lt := Nat.lt_of_le_of_lt (List.length_take_le _ _) (UInt32.toNat_lt _)

/-- Forwarding a frame's own message changes its control data only. -/
theorem forwardedFrame_header (f : Frame) (rest : Bytes) (id : UInt32)
    (ht : f.header.topic.str.length ≤ 127) (hr : f.header.replyTopic.str.length ≤ 127) :
    forwardedFrame f.header (f.payload ++ rest) id ht hr = f.withControlData id := by
  simp only [forwardedFrame, Frame.header_topic_str, Frame.header_replyTopic_str,
    Frame.header_payloadLength, List.take_left, Frame.withControlData]
  rfl

theorem strcpy_ok {n : Nat} {s : Bytes} {a b : CArray n} (h : a.strcpy s = .ok b) :
    s.length < n := by
  have hle := (CArray.write_eq_ok h).1
  simp only [List.length_append, List.length_singleton] at hle
  omega

/-- The header a forward encodes, once the topics are copied. -/
def forwardedHeader (hdr : RtMessageHeader) (id : UInt32) : RtMessageHeader :=
  { version := hdr.version
    headerLength := hdr.headerLength
    sequenceNumber := hdr.sequenceNumber
    controlData := id
    payloadLength := hdr.payloadLength
    topicLength := hdr.topicLength
    replyTopicLength := hdr.replyTopicLength
    flags := hdr.flags
    topic := .pad 128 hdr.topic.str
    replyTopic := .pad 128 hdr.replyTopic.str }

theorem encode_forwardedHeader {hdr : RtMessageHeader} {buff : Bytes} (id : UInt32)
    (ht : hdr.topic.str.length ≤ 127) (hr : hdr.replyTopic.str.length ≤ 127)
    (hn : hdr.payloadLength.toNat ≤ buff.length) :
    (rtMessageHeaderEncode (forwardedHeader hdr id)).2 =
      (forwardedFrame hdr buff id ht hr).headerBytes := by
  have hp : UInt32.ofNat (buff.take hdr.payloadLength.toNat).length = hdr.payloadLength := by
    rw [List.length_take, Nat.min_eq_left hn, UInt32.ofNat_toNat]
  rw [Frame.headerBytes_eq]
  simp only [rtMessageHeaderEncode, forwardedHeader,
    CArray.pad_str (Nat.le_succ_of_le ht) (zero_not_mem_cstr _),
    CArray.pad_str (Nat.le_succ_of_le hr) (zero_not_mem_cstr _), forwardedFrame, hp]
  rfl

theorem forward_eq {clients : List RtConnectedClient} {hdr : RtMessageHeader}
    {sub : RtSubscription} {client : RtConnectedClient}
    (ht : hdr.topic.str.length ≤ 127) (hr : hdr.replyTopic.str.length ≤ 127)
    (hfind : clients.find? (fun k => k.ptr == sub.client) = some client)
    (buff : Bytes) (n : Nat) (os : Os) :
    rtRoutedForwardMessage clients hdr buff n sub os =
      match os.beginCall.2.send (some client.fd) os.calls .header
          (rtMessageHeaderEncode (forwardedHeader hdr sub.id)).2 with
      | (.error errno, os) => .ok (forwardError errno, os)
      | (.ok _, os₁) =>
        if n ≤ buff.length then
          match os₁.send (some client.fd) os.calls .payload (buff.take n) with
          | (.error errno, os) => .ok (forwardError errno, os)
          | (.ok _, os) => .ok (.ok, os)
        else .error .undefinedBehaviour := by
  rw [rtRoutedForwardMessage]
  simp only [Os.beginCall, show rtMessageHeaderInit.topic = .zero 128 from rfl,
    show rtMessageHeaderInit.replyTopic = .zero 128 from rfl,
    CArray.strcpy_zero (Nat.lt_succ_of_le ht), CArray.strcpy_zero (Nat.lt_succ_of_le hr), ok_bind,
    hfind, forwardedHeader]
  rfl

/-- The socket answered, with as many bytes as it may be. -/
def SendResult.Answered (r : SendResult) : Prop := ∀ n, r ≠ .error n

theorem SendResult.Answered.reply {r : SendResult} (h : r.Answered) (len : Nat) :
    ∃ k, r.reply len = .ok k := by
  cases r with
  | complete => exact ⟨len, rfl⟩
  | short k => exact ⟨min k len, rfl⟩
  | error n => exact absurd rfl (h n)

theorem SendResult.answered_or (r : SendResult) : r.Answered ∨ ∃ n, r = .error n := by
  cases r with
  | complete => exact .inl (by rintro n h; cases h)
  | short k => exact .inl (by rintro n h; cases h)
  | error n => exact .inr ⟨n, rfl⟩

/-- **What a forward does**: it is refused at its header, or sends its payload whether or not
    the header went out whole. -/
theorem forward_cases {clients : List RtConnectedClient} {hdr : RtMessageHeader} {buff : Bytes}
    {sub : RtSubscription} {os os' : Os} {e : RtError}
    (h : rtRoutedForwardMessage clients hdr buff hdr.payloadLength.toNat sub os =
      .ok (e, os')) :
    ∃ client, clients.find? (fun k => k.ptr == sub.client) = some client ∧
      ((∃ n data, os.sends.head = .error n ∧ e = forwardError n ∧
          os' = { os with calls := os.calls + 1, sends := os.sends.tail
                          sent := os.sent ++
                            [⟨os.calls, client.fd, .header, data, .error n⟩] }) ∨
        ∃ ht hr, os.sends.head.Answered ∧ hdr.payloadLength.toNat ≤ buff.length ∧
          (os.sends.tail.head.Answered ∧ e = .ok ∨
            ∃ n, os.sends.tail.head = .error n ∧ e = forwardError n) ∧
          os' = { os with calls := os.calls + 1, sends := os.sends.tail.tail
                          sent := os.sent ++
                            [⟨os.calls, client.fd, .header,
                                (forwardedFrame hdr buff sub.id ht hr).headerBytes,
                                os.sends.head⟩,
                              ⟨os.calls, client.fd, .payload,
                                (forwardedFrame hdr buff sub.id ht hr).payload,
                                os.sends.tail.head⟩] }) := by
  have hcopied := h
  rw [rtRoutedForwardMessage] at hcopied
  simp only [Os.beginCall] at hcopied
  obtain ⟨topic, htopic, hcopied⟩ := bind_eq_ok.mp hcopied
  obtain ⟨replyTopic, hreply, hcopied⟩ := bind_eq_ok.mp hcopied
  have ht := Nat.le_of_lt_succ (strcpy_ok htopic)
  have hr := Nat.le_of_lt_succ (strcpy_ok hreply)
  cases hfind : clients.find? (fun k => k.ptr == sub.client) with
  | none => rw [hfind] at hcopied; cases hcopied
  | some client =>
    clear hcopied
    refine ⟨client, rfl, ?_⟩
    rw [forward_eq ht hr hfind] at h
    simp only [Os.beginCall, Os.send] at h
    -- the header was answered with a count, or failed and ended the call
    rcases os.sends.head.answered_or with hans | ⟨n, hn⟩
    · obtain ⟨k, hk⟩ := hans.reply (rtMessageHeaderEncode (forwardedHeader hdr sub.id)).2.length
      simp only [hk] at h
      split at h
      · next hle =>
        refine .inr ⟨ht, hr, hans, hle, ?_⟩
        rw [encode_forwardedHeader sub.id ht hr hle] at h
        -- the payload likewise, in the second send
        rcases os.sends.tail.head.answered_or with hans' | ⟨n, hn⟩
        · obtain ⟨k', hk'⟩ := hans'.reply (buff.take hdr.payloadLength.toNat).length
          simp only [hk', Except.ok.injEq, Prod.mk.injEq] at h
          obtain ⟨rfl, rfl⟩ := h
          exact ⟨.inl ⟨hans', rfl⟩, by simp [forwardedFrame]⟩
        · simp only [hn, SendResult.reply, Except.ok.injEq, Prod.mk.injEq] at h
          obtain ⟨rfl, rfl⟩ := h
          exact ⟨.inr ⟨n, hn, rfl⟩, by simp [forwardedFrame, hn]⟩
      · cases h
    · simp only [hn, SendResult.reply, Except.ok.injEq, Prod.mk.injEq] at h
      obtain ⟨rfl, rfl⟩ := h
      exact .inl ⟨n, _, hn, rfl, rfl⟩

/-- **A forward whose two sends take all their bytes** sends its frame and nothing else. -/
theorem forward_complete {clients : List RtConnectedClient} {hdr : RtMessageHeader}
    {buff : Bytes} {sub : RtSubscription} {client : RtConnectedClient} {os : Os}
    (ht : hdr.topic.str.length ≤ 127) (hr : hdr.replyTopic.str.length ≤ 127)
    (hfind : clients.find? (fun k => k.ptr == sub.client) = some client)
    (hn : hdr.payloadLength.toNat ≤ buff.length)
    (hheader : os.sends.head = .complete) (hpayload : os.sends.tail.head = .complete) :
    rtRoutedForwardMessage clients hdr buff hdr.payloadLength.toNat sub os =
      .ok (.ok, { os with
        calls := os.calls + 1, sends := os.sends.tail.tail
        sent := os.sent ++
          [⟨os.calls, client.fd, .header, (forwardedFrame hdr buff sub.id ht hr).headerBytes,
              .complete⟩,
            ⟨os.calls, client.fd, .payload, (forwardedFrame hdr buff sub.id ht hr).payload,
              .complete⟩] }) := by
  rw [forward_eq ht hr hfind, encode_forwardedHeader sub.id ht hr hn]
  simp only [Os.beginCall, Os.send, hheader, hpayload, SendResult.reply, if_pos hn,
    List.append_assoc, List.cons_append, List.nil_append]
  rfl

end RtMessage
