import RtMessage.Refinement

/- What a control message does and the bytes that lie behind it.

   A client's read buffer is neither cleared nor terminated between two messages, and
   `rtMessage_FromBytes` does not look at the length it is given: the parser gets the payload
   and, where the payload holds no NUL, what earlier messages left behind it. The leftovers
   make a difference for a payload that is the beginning of a JSON value and for no other
   (`effect_of_own_bytes_iff`). -/
namespace RtMessage
open Lib

/-- The parser reads the value at the front of the text. Bytes behind the text leave that value
    as it is, but for a number, which may go on in them. -/
structure ReadsLeadingValue (J : CJsonLib) : Prop where
  extend : ∀ text more v, 0 ∉ text ++ more → J.parse text = some v →
    ∃ v', J.parse (text ++ more) = some v' ∧ (v' = v ∨ ∃ a b, v = .number a ∧ v' = .number b)

/-- The client's reader has completed the frame; the text at the payload is terminated in the
    buffer, by the payload or by what is left behind it. -/
structure Holds (f : Frame) (clnt : RtConnectedClient) : Prop where
  header : clnt.header = f.header
  frame : clnt.readBuffer.data.take f.size = f.bytes
  terminated : 0 ∈ clnt.message.buff

/-- What `rtRouted_OnMessage` makes of a client's message: its error and the route table. -/
def controlOutcome {ε : Type} (J : CJsonLib) (clnt : RtConnectedClient) (r : RtRouted ε) :
    Except Fault (RtError × List RtRouteEntry) :=
  (rtRoutedOnMessage J clnt.ptr clnt.header clnt.message.buff r).map fun x => (x.1, x.2.routes)

/-- The effect of the frame depends on its own bytes: two states of the router that differ in
    the sender's buffer, in the bytes behind the frame only, see the same. -/
def EffectOfOwnBytes (J : CJsonLib) (f : Frame) : Prop :=
  ∀ (r : RtRouted Os) (clnt : RtConnectedClient) (readBuffer : CArray 8192), clnt ∈ r.clients →
    Holds f clnt → Holds f { clnt with readBuffer } →
    ((rtMessageFromBytes J clnt.message.buff).isSome ↔
      (rtMessageFromBytes J (RtConnectedClient.message { clnt with readBuffer }).buff).isSome) ∧
    controlOutcome J clnt r = controlOutcome J { clnt with readBuffer }
      { r with clients := putClient { clnt with readBuffer } r.clients }

section Text
variable {J : CJsonLib} {f : Frame} {clnt : RtConnectedClient}

theorem Holds.buff (h : Holds f clnt) :
    clnt.message.buff = f.payload ++ clnt.readBuffer.data.drop f.size := by
  have hdata : clnt.readBuffer.data = f.bytes ++ clnt.readBuffer.data.drop f.size := by
    rw [← h.frame, List.take_append_drop]
  change clnt.readBuffer.data.drop clnt.header.headerLength.toNat = _
  rw [h.header, f.header_headerLength]
  calc clnt.readBuffer.data.drop f.headerLength
      = (f.headerBytes ++ (f.payload ++ clnt.readBuffer.data.drop f.size)).drop f.headerLength := by
        rw [← List.append_assoc, ← Frame.bytes, ← hdata]
    _ = f.payload ++ clnt.readBuffer.data.drop f.size := List.drop_left' f.headerBytes_length

/-- The text the parser is given: the payload up to its NUL, or the payload and as much of what
    is left as has none and fits the buffer with a NUL behind it. -/
theorem Holds.text (h : Holds f clnt) :
    (0 ∈ f.payload ∧ cstr clnt.message.buff = cstr f.payload) ∨
    0 ∉ f.payload ∧ ∃ left, 0 ∉ left ∧ f.size + left.length < 8192 ∧
      cstr clnt.message.buff = f.payload ++ left := by
  have hterm := h.terminated
  rw [h.buff] at hterm ⊢
  by_cases hnul : 0 ∈ f.payload
  · exact .inl ⟨hnul, cstr_append_of_mem hnul _⟩
  · have hlt := cstr_length_lt ((List.mem_append.mp hterm).resolve_left hnul)
    rw [List.length_drop, clnt.readBuffer.size_eq] at hlt
    change _ < 8192 - _ at hlt
    exact .inr ⟨hnul, _, zero_not_mem_cstr _, by omega, cstr_append hnul _⟩

/-- The client with the frame in its buffer, and `left` behind it. -/
def holding (f : Frame) (left : Bytes) : RtConnectedClient :=
  { rtConnectedClientInit 1 0 with
    header := f.header, readBuffer := .pad 8192 (f.bytes ++ left) }

theorem holding_data {left : Bytes} (h : f.size + left.length < 8192) :
    (holding f left).readBuffer.data =
      f.bytes ++ (left ++ List.replicate (8192 - (f.size + left.length)) 0) := by
  have hlen : (f.bytes ++ left).length = f.size + left.length := by
    rw [List.length_append, f.bytes_length]
  rw [← List.append_assoc, ← hlen]
  exact CArray.pad_data (hlen ▸ Nat.le_of_lt h)

theorem holding_holds {left : Bytes} (h : f.size + left.length < 8192) :
    Holds f (holding f left) := by
  refine ⟨rfl, ?_, ?_⟩
  · rw [holding_data h, List.take_left' f.bytes_length]
  · change 0 ∈ (holding f left).readBuffer.data.drop f.header.headerLength.toNat
    rw [holding_data h, f.header_headerLength, Frame.bytes, List.append_assoc,
      List.drop_left' f.headerBytes_length]
    refine List.mem_append_right _ (List.mem_append_right _ ?_)
    exact List.mem_replicate.mpr ⟨Nat.sub_ne_zero_of_lt h, rfl⟩

theorem holding_text {left : Bytes} (h : f.size + left.length < 8192) (hnul : 0 ∉ f.payload)
    (hleft : 0 ∉ left) : cstr (holding f left).message.buff = f.payload ++ left := by
  rw [(holding_holds h).buff, holding_data h, List.drop_left' f.bytes_length, cstr_append hnul,
    cstr_pad hleft]

end Text

/-! The outcome. -/

section Outcome
variable {ε : Type} {J : CJsonLib} {hdr : RtMessageHeader} {buff buff' : Bytes}

theorem rtMessageGetString_number (v : Int) (name : Bytes) :
    rtMessageGetString (.number v) name = none := rfl

/-- The route that two payloads ask for is the same where they parse alike. -/
theorem controlRoute_congr (h : rtMessageFromBytes J buff = rtMessageFromBytes J buff' ∨
      ∃ a b, rtMessageFromBytes J buff = some (.number a) ∧
        rtMessageFromBytes J buff' = some (.number b)) :
    controlRoute J hdr buff = controlRoute J hdr buff' := by
  rcases h with h | ⟨a, b, ha, hb⟩
  · simp only [controlRoute, controlMessage, h]
  · simp only [controlRoute, controlMessage, ha, hb, ok_bind, rtMessageGetString_number,
      Option.getD_none]

/-- The outcome is decided by the table and by what the payload asks for. -/
theorem controlOutcome_congr {clnt clnt' : RtConnectedClient} {r r' : RtRouted ε}
    (hptr : clnt'.ptr = clnt.ptr) (hroutes : r'.routes = r.routes)
    (hnext : r'.nextPtr = r.nextPtr)
    (hroute : controlRoute J clnt.header clnt.message.buff =
      controlRoute J clnt'.header clnt'.message.buff) :
    controlOutcome J clnt r = controlOutcome J clnt' r' := by
  unfold controlOutcome
  rw [onMessage_eq, onMessage_eq, hroute, hptr]
  cases controlRoute J clnt'.header clnt'.message.buff with
  | error e => rfl
  | ok a =>
    cases a with
    | none => simp only [ok_bind, RtRouted.subscribe, pure_eq_ok, Except.map, hroutes]
    | some p => simp only [ok_bind, RtRouted.subscribe, pure_eq_ok, Except.map, hroutes, hnext]

end Outcome

/-- The payload has a value at its front, or it is not the beginning of one that the buffer has
    room for. -/
def SelfContained (J : CJsonLib) (f : Frame) : Prop :=
  (J.parse f.payload).isSome ∨
    ∀ left, 0 ∉ left → f.size + left.length < 8192 → J.parse (f.payload ++ left) = none

theorem SelfContained.parses {J : CJsonLib} (hJ : ReadsLeadingValue J) {f : Frame}
    {clnt clnt' : RtConnectedClient} (h : Holds f clnt) (h' : Holds f clnt')
    (hpayload : 0 ∈ f.payload ∨ SelfContained J f) :
    rtMessageFromBytes J clnt.message.buff = rtMessageFromBytes J clnt'.message.buff ∨
      ∃ a b, rtMessageFromBytes J clnt.message.buff = some (.number a) ∧
        rtMessageFromBytes J clnt'.message.buff = some (.number b) := by
  unfold rtMessageFromBytes
  rcases h.text with ⟨hnul, htext⟩ | ⟨hnul, left, hleft, hroom, htext⟩
  · rcases h'.text with ⟨-, htext'⟩ | ⟨hnot, -⟩
    · exact .inl (by rw [htext, htext'])
    · exact absurd hnul hnot
  · rcases h'.text with ⟨hnot, -⟩ | ⟨-, left', hleft', hroom', htext'⟩
    · exact absurd hnot hnul
    · rw [htext, htext']
      rcases hpayload with hnot | hsome | hnone
      · exact absurd hnot hnul
      · -- the payload begins with a value, which both texts have at their front
        obtain ⟨v, hv⟩ := Option.isSome_iff_exists.mp hsome
        have hfree : ∀ {more : Bytes}, 0 ∉ more → 0 ∉ f.payload ++ more := fun hmore hmem =>
          (List.mem_append.mp hmem).elim hnul hmore
        obtain ⟨w, hw, hsame⟩ := hJ.extend _ _ _ (hfree hleft) hv
        obtain ⟨w', hw', hsame'⟩ := hJ.extend _ _ _ (hfree hleft') hv
        rw [hw, hw']
        rcases hsame with rfl | ⟨a, b, rfl, rfl⟩
        · rcases hsame' with rfl | ⟨a, b, rfl, rfl⟩
          · exact .inl rfl
          · exact .inr ⟨a, b, rfl, rfl⟩
        · rcases hsame' with rfl | ⟨c, d, -, rfl⟩
          · exact .inr ⟨b, a, rfl, rfl⟩
          · exact .inr ⟨b, d, rfl, rfl⟩
      · exact .inl (by rw [hnone left hleft hroom, hnone left' hleft' hroom'])

/-- **When the effect of a control message depends on its own bytes**: its payload holds a NUL,
    or begins with a JSON value, or is not the beginning of one. -/
theorem effect_of_own_bytes_iff {J : CJsonLib} (hJ : ReadsLeadingValue J) {f : Frame} :
    EffectOfOwnBytes J f ↔ 0 ∈ f.payload ∨ SelfContained J f := by
  constructor
  · intro heffect
    by_contra hnot
    obtain ⟨hnul, hcut⟩ := not_or.mp hnot
    obtain ⟨hfails, hgoes⟩ := not_or.mp hcut
    have hfails := Option.not_isSome_iff_eq_none.mp hfails
    obtain ⟨left, hgoes⟩ := not_forall.mp hgoes
    obtain ⟨hleft, hgoes⟩ := Classical.not_imp.mp hgoes
    obtain ⟨hroom, hparse⟩ := Classical.not_imp.mp hgoes
    -- the payload with nothing behind it, and with what completes it
    have hroom₀ : f.size + ([] : Bytes).length < 8192 := Nat.lt_of_le_of_lt (Nat.le_add_right _ _) hroom
    let clnt := holding f []
    let r : RtRouted Os := ⟨[clnt], [], 2, .idle (Stream'.const .complete)⟩
    have hiff := (heffect r clnt (holding f left).readBuffer List.mem_cons_self
      (holding_holds hroom₀) (holding_holds hroom)).1
    have htext : cstr clnt.message.buff = f.payload := by
      rw [holding_text hroom₀ hnul List.not_mem_nil, List.append_nil]
    have htext' : cstr (holding f left).message.buff = f.payload ++ left :=
      holding_text hroom hnul hleft
    have hsome : (rtMessageFromBytes J (holding f left).message.buff).isSome := by
      rw [rtMessageFromBytes, htext']
      exact Option.isSome_iff_ne_none.mpr hparse
    have hsome' := hiff.mpr hsome
    rw [rtMessageFromBytes, htext, hfails] at hsome'
    cases hsome'
  · intro hpayload r clnt readBuffer hmem h h'
    have hparses := SelfContained.parses hJ h h' hpayload
    refine ⟨?_, controlOutcome_congr rfl rfl rfl (controlRoute_congr hparses)⟩
    rcases hparses with heq | ⟨a, b, ha, hb⟩
    · rw [heq]
    · rw [ha, hb]
      rfl

/-! A payload cut short by its closing brace. -/

theorem subscribeLib_reads : ReadsLeadingValue subscribeLib where
  extend := by
    intro text more v _ hv
    unfold subscribeLib at hv ⊢
    dsimp only at hv ⊢
    split at hv
    · next hfront =>
      cases hv
      have hmore : subscribeText.isPrefixOf (text ++ more) = true :=
        List.isPrefixOf_iff_prefix.mpr
          ((List.isPrefixOf_iff_prefix.mp hfront).trans (List.prefix_append text more))
      rw [if_pos hmore]
      exact ⟨_, rfl, .inl rfl⟩
    · cases hv

theorem effect_of_own_bytes_iff_example : EffectOfOwnBytes subscribeLib subscribeFrame :=
  (effect_of_own_bytes_iff subscribeLib_reads).mpr (.inr (.inl (by decide)))

def cutFrame : Frame :=
  { subscribeFrame with payload := subscribeText.dropLast, payload_lt := by decide }

/-- With nothing behind it the message is refused; with the brace that an earlier message left
    there it subscribes its sender. -/
theorem leftovers_complete :
    rtMessageFromBytes subscribeLib (holding cutFrame []).message.buff = none ∧
    (rtMessageFromBytes subscribeLib (holding cutFrame [125]).message.buff).isSome ∧
    ¬ ∀ (J : CJsonLib) (f : Frame), ReadsLeadingValue J → f.topic.str = subscribeTopic →
      EffectOfOwnBytes J f := by
  have hroom₀ : cutFrame.size + ([] : Bytes).length < 8192 := by decide
  have hroom : cutFrame.size + ([125] : Bytes).length < 8192 := by decide
  have hnul : 0 ∉ cutFrame.payload := by decide
  have hnone : rtMessageFromBytes subscribeLib (holding cutFrame []).message.buff = none := by
    rw [rtMessageFromBytes, holding_text hroom₀ hnul (by decide)]
    decide
  have hsome : (rtMessageFromBytes subscribeLib (holding cutFrame [125]).message.buff).isSome := by
    rw [rtMessageFromBytes, holding_text hroom hnul (by decide)]
    decide
  refine ⟨hnone, hsome, fun hclaim => ?_⟩
  have hiff := (hclaim subscribeLib cutFrame subscribeLib_reads rfl
    ⟨[holding cutFrame []], [], 2, .idle (Stream'.const .complete)⟩ (holding cutFrame [])
    (holding cutFrame [125]).readBuffer List.mem_cons_self (holding_holds hroom₀)
    (holding_holds hroom)).1
  have hsome₀ := hiff.mpr hsome
  rw [hnone] at hsome₀
  cases hsome₀

end RtMessage
