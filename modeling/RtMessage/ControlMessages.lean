import RtMessage.Dispatch

/- What the router makes of a SUBSCRIBE or a HELLO, whatever its payload is.

   `rtRouted_OnMessage` looks neither at whether the payload was parsed nor at whether the
   string was found, and `rtRouted_AddRoute` copies at most 128 bytes of it. So a payload is
   handled if it has the string and the string leaves room for a NUL (`control_handled_iff`);
   any other makes the router pass a null pointer on, or cuts the string. -/
namespace RtMessage

/-- The member that a control message has its expression in. -/
def controlMember (hdr : RtMessageHeader) : Bytes :=
  if hdr.topic.str = subscribeTopic then ascii "topic" else ascii "inbox"

/-- The string that the payload gives. -/
def givenString (J : CJsonLib) (hdr : RtMessageHeader) (buff : Bytes) : Option Bytes :=
  (rtMessageFromBytes J buff).bind fun m =>
    ((rtMessageGetString m (controlMember hdr)).getD none).map cstr

/-- The array of the route holds the string with its NUL. -/
def RtRouteEntry.HoldsString (route : RtRouteEntry) (s : Bytes) : Prop :=
  0 ∈ route.expression.data ∧ route.expression.str = s

/-- The handler returns, and appends one route of the sender for the given string, or none. -/
def ControlHandled {ε : Type} (J : CJsonLib) (sender : Nat) (hdr : RtMessageHeader) (buff : Bytes)
    (r : RtRouted ε) : Prop :=
  ∃ err r', rtRoutedOnMessage J sender hdr buff r = .ok (err, r') ∧
    (r'.routes = r.routes ∨ ∃ s route, givenString J hdr buff = some s ∧
      r'.routes = r.routes ++ [route] ∧ route.owner = some sender ∧ route.HoldsString s)

/-! The copy of a string. -/

section Copied
variable {ptr clnt : Nat} {id : UInt32}

theorem copied_holds_iff (s : Bytes) :
    (clientRoute ptr clnt s id).HoldsString (cstr s) ↔ (cstr s).length ≤ 127 := by
  rw [RtRouteEntry.HoldsString, CArray.terminated_iff, clientRoute_str, List.length_take,
    RTMSG_MAX_EXPRESSION_LEN]
  constructor
  · intro h
    omega
  · intro h
    exact ⟨by omega, List.take_of_length_le (by omega)⟩

end Copied

/-! The handler. -/

section Handler
variable {ε : Type} {J : CJsonLib} {hdr : RtMessageHeader} {buff s : Bytes} {sender : Nat}
  {r : RtRouted ε}

/-- A control message asks for a route, unless a pointer is null. -/
theorem controlRoute_cases (hcontrol : hdr.topic.str = subscribeTopic ∨ hdr.topic.str = helloTopic) :
    (givenString J hdr buff = none ∧ controlRoute J hdr buff = .error .undefinedBehaviour) ∨
    ∃ s id, givenString J hdr buff = some (cstr s) ∧ controlRoute J hdr buff = .ok (some (s, id)) := by
  unfold givenString controlRoute controlMember controlMessage
  cases hm : rtMessageFromBytes J buff with
  | none =>
    refine .inl ⟨rfl, ?_⟩
    by_cases hsubscribe : hdr.topic.str = subscribeTopic
    · rw [if_pos hsubscribe]
      rfl
    · rw [if_neg hsubscribe, if_pos (hcontrol.resolve_left hsubscribe)]
      rfl
  | some m =>
    simp only [Option.bind_some, ok_bind]
    by_cases hsubscribe : hdr.topic.str = subscribeTopic
    · rw [if_pos hsubscribe, if_pos hsubscribe]
      cases (rtMessageGetString m (ascii "topic")).getD none with
      | none => exact .inl ⟨rfl, rfl⟩
      | some s => exact .inr ⟨s, _, rfl, rfl⟩
    · rw [if_neg hsubscribe, if_neg hsubscribe, if_pos (hcontrol.resolve_left hsubscribe)]
      cases (rtMessageGetString m (ascii "inbox")).getD none with
      | none => exact .inl ⟨rfl, rfl⟩
      | some s => exact .inr ⟨s, 0, rfl, rfl⟩

end Handler

/-- A control message is handled exactly if it gives a string of 127 bytes or fewer. -/
theorem control_handled_iff {ε : Type} (J : CJsonLib) (sender : Nat) (hdr : RtMessageHeader)
    (buff : Bytes) (r : RtRouted ε)
    (hcontrol : hdr.topic.str = subscribeTopic ∨ hdr.topic.str = helloTopic) :
    ControlHandled J sender hdr buff r ↔ ∃ s, givenString J hdr buff = some s ∧ s.length ≤ 127 := by
  rcases @controlRoute_cases J hdr buff hcontrol with ⟨hnone, hroute⟩ | ⟨s, id, hgiven, hroute⟩
  · constructor
    · intro h
      obtain ⟨err, r', hreturned, _⟩ := h
      rw [onMessage_eq, hroute, error_bind] at hreturned
      cases hreturned
    · intro h
      obtain ⟨s, hs, _⟩ := h
      rw [hnone] at hs
      cases hs
  · have hruns : rtRoutedOnMessage J sender hdr buff r =
        .ok (.ok, r.subscribe sender (some (s, id))) := by
      rw [onMessage_eq, hroute]
      rfl
    have howner : (clientRoute r.nextPtr sender s id).owner = some sender := rfl
    constructor
    · intro h
      obtain ⟨err, r', hreturned, hcases⟩ := h
      rw [hruns] at hreturned
      obtain ⟨_, rfl⟩ := Prod.mk.inj (Except.ok.inj hreturned)
      refine ⟨cstr s, hgiven, ?_⟩
      rcases hcases with hsame | ⟨t, route, ht, happend, _, hholds⟩
      · exact absurd hsame (by simp [RtRouted.subscribe])
      · have hroute : clientRoute r.nextPtr sender s id = route :=
          List.singleton_inj.mp (List.append_cancel_left happend)
        rw [hgiven] at ht
        rw [← Option.some.inj ht, ← hroute] at hholds
        exact (copied_holds_iff s).mp hholds
    · intro h
      obtain ⟨t, ht, hlen⟩ := h
      rw [hgiven] at ht
      obtain rfl := Option.some.inj ht
      exact ⟨_, _, hruns, .inr ⟨cstr s, clientRoute r.nextPtr sender s id, hgiven, rfl, howner,
        (copied_holds_iff s).mpr hlen⟩⟩

/-! A HELLO with an inbox, and a SUBSCRIBE that is no JSON. -/

def controlHeader (topic : Bytes) : RtMessageHeader :=
  { rtMessageHeaderInit with topic := .pad 128 topic }

def inboxText : Bytes := ascii "\x7b\"inbox\":\"A.INBOX\"\x7d"

/-- A library that knows one text. -/
def inboxLib : CJsonLib where
  parse text := if text = inboxText then some (.object [(ascii "inbox", .string (ascii "A.INBOX"))])
    else none
  print _ := inboxText

/-- A router with its own route only. -/
def emptyRouter : RtRouted Unit := ⟨[], [internalRoute 1], 2, ()⟩

theorem control_handled_iff_example :
    ControlHandled inboxLib 1 (controlHeader helloTopic) inboxText emptyRouter ↔
      ∃ s, givenString inboxLib (controlHeader helloTopic) inboxText = some s ∧ s.length ≤ 127 :=
  control_handled_iff inboxLib 1 (controlHeader helloTopic) inboxText emptyRouter
    (.inr (by decide +kernel))

/-- The null message that a payload without JSON gives is passed on. -/
theorem null_message_passed_on : ¬ ∀ (J : CJsonLib) (sender : Nat) (hdr : RtMessageHeader)
    (buff : Bytes) (r : RtRouted Unit), hdr.topic.str = subscribeTopic ∨ hdr.topic.str = helloTopic →
    ControlHandled J sender hdr buff r := by
  intro h
  obtain ⟨err, r', hreturned, _⟩ := h inboxLib 1 (controlHeader subscribeTopic) (ascii "x") emptyRouter
    (.inl (by decide +kernel))
  have htopic : (controlHeader subscribeTopic).topic.str = subscribeTopic := by decide +kernel
  have hparse : rtMessageFromBytes inboxLib (ascii "x") = none := by decide +kernel
  rw [rtRoutedOnMessage, if_pos htopic, controlMessage, hparse] at hreturned
  cases hreturned

end RtMessage
