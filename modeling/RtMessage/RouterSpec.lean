import RtMessage.Router
import RtMessage.Sending

/- The router as its clients may think of it.

   Frames are completed one after the other, each by one client. A frame goes out once to
   every subscription whose expression matches its topic, and a SUBSCRIBE adds one behind
   those there are. Neither buffers nor sockets occur here: `deliveries` is what a sequence
   of completed frames brings about, and `completions` the sequence that the reads of the
   clients' streams complete. -/
namespace RtMessage

structure Subscription where
  client : Nat
  id : UInt32
  expression : Bytes
  deriving DecidableEq, Repr

def Subscription.matches (s : Subscription) (f : Frame) : Bool :=
  rtRoutedIsTopicMatch f.topic.str s.expression

/-- The expression and the id a frame asks to be subscribed with. -/
def Frame.subscription (J : CJsonLib) (f : Frame) : Option (Bytes × UInt32) :=
  if f.topic.str = subscribeTopic then do
    let m ← J.parse (cstr f.payload)
    let topic ← (rtMessageGetString m (ascii "topic")).join
    return (cstr topic, toUInt32 ((rtMessageGetInt32 m (ascii "route_id")).getD 0))
  else none

/-- The subscription that the frame `p.2` of client `p.1` makes, if it is one. -/
def subscribed (J : CJsonLib) (p : Nat × Frame) : List Subscription :=
  ((p.2.subscription J).map fun a => ⟨p.1, a.2, a.1⟩).toList

/-- A frame's copies, in the order of the table, each with the client it goes to. -/
def copies (table : List Subscription) (f : Frame) : List (Nat × Frame) :=
  (table.filter (·.matches f)).map fun s => (s.client, f.withControlData s.id)

/-- The answer to a request without a route. -/
def refusalFrame (J : CJsonLib) (f : Frame) : Frame :=
  sentFrame (errorConnection 0) f.replyTopic.str (rtMessageToByteArray J noRouteMessage)
    (some noRouteTopic) rtMessageFlagsResponse

section Deliveries
variable (J : CJsonLib) (own : List Bytes)

/-- Some route matches: one of the router's own, with the expressions `own`, or a
    subscription. -/
def hasRoute (table : List Subscription) (f : Frame) : Bool :=
  own.any (rtRoutedIsTopicMatch f.topic.str) || table.any (·.matches f)

/-- What goes back to the sender of a request without a route. -/
def refusals (table : List Subscription) (p : Nat × Frame) : List (Nat × Frame) :=
  if !hasRoute own table p.2 && rtMessageHeaderIsRequest p.2.header
  then [(p.1, refusalFrame J p.2)] else []

def outputs (table : List Subscription) (p : Nat × Frame) : List (Nat × Frame) :=
  copies table p.2 ++ refusals J own table p

/-- The table after the frames. -/
def tableAfter (table : List Subscription) (done : List (Nat × Frame)) : List Subscription :=
  table ++ done.flatMap (subscribed J)

/-- All that goes out for the frames, in order. -/
def deliveries (table : List Subscription) : List (Nat × Frame) → List (Nat × Frame)
  | [] => []
  | p :: rest => outputs J own table p ++ deliveries (table ++ subscribed J p) rest

variable {J own}

theorem tableAfter_append (table : List Subscription) (a b : List (Nat × Frame)) :
    tableAfter J table (a ++ b) = tableAfter J (tableAfter J table a) b := by
  simp only [tableAfter, List.flatMap_append, List.append_assoc]

theorem deliveries_append (table : List Subscription) (a b : List (Nat × Frame)) :
    deliveries J own table (a ++ b) =
      deliveries J own table a ++ deliveries J own (tableAfter J table a) b := by
  induction a generalizing table with
  | nil => simp [deliveries, tableAfter]
  | cons p a ih =>
    rw [List.cons_append, deliveries, deliveries, ih, List.append_assoc]
    simp only [tableAfter, List.flatMap_cons, List.append_assoc]

end Deliveries

/-- The frames that go to a client. -/
def framesTo (client : Nat) (out : List (Nat × Frame)) : List Frame :=
  out.filterMap fun p => if p.1 = client then some p.2 else none

@[simp] theorem framesTo_append (client : Nat) (a b : List (Nat × Frame)) :
    framesTo client (a ++ b) = framesTo client a ++ framesTo client b := List.filterMap_append

/-! The streams. -/

/-- What is left of a client's stream: the frames that are not complete, and how many bytes of
    the first of them were read. -/
abbrev Progress := List Frame × Nat

/-- The bytes of a stream that were not read. -/
def Progress.unread (p : Progress) : Bytes := (p.1.flatMap Frame.bytes).drop p.2

/-- `e.2` bytes of the stream of client `e.1` are read, up to the end of a frame at most. -/
def readStream (s : Nat → Progress) (e : Nat × Nat) : Nat → Progress :=
  match s e.1 with
  | ([], _) => s
  | (f :: fs, got) =>
    Function.update s e.1 (if got + e.2 < f.size then (f :: fs, got + e.2) else (fs, 0))

/-- The frame that this read completes. -/
def completed (s : Nat → Progress) (e : Nat × Nat) : List (Nat × Frame) :=
  match s e.1 with
  | ([], _) => []
  | (f :: _, got) => if got + e.2 < f.size then [] else [(e.1, f)]

def streamsAfter (s : Nat → Progress) (es : List (Nat × Nat)) : Nat → Progress :=
  es.foldl readStream s

/-- The frames that the reads complete, in the order in which they do. -/
def completions (s : Nat → Progress) : List (Nat × Nat) → List (Nat × Frame)
  | [] => []
  | e :: es => completed s e ++ completions (readStream s e) es

theorem completions_append (s : Nat → Progress) (es es' : List (Nat × Nat)) :
    completions s (es ++ es') = completions s es ++ completions (streamsAfter s es) es' := by
  induction es generalizing s with
  | nil => rfl
  | cons e es ih =>
    rw [List.cons_append, completions, completions, ih, List.append_assoc]
    rfl

theorem streamsAfter_append (s : Nat → Progress) (es es' : List (Nat × Nat)) :
    streamsAfter s (es ++ es') = streamsAfter (streamsAfter s es) es' := List.foldl_append

theorem completions_streamsAfter (s : Nat → Progress) (es : List (Nat × Nat)) (client : Nat) :
    framesTo client (completions s es) ++ (streamsAfter s es client).1 = (s client).1 := by
  induction es generalizing s with
  | nil => rfl
  | cons e es ih =>
    have hone : framesTo client (completed s e) ++ (readStream s e client).1 = (s client).1 := by
      unfold completed readStream
      cases hs : s e.1 with
      | mk fs got =>
        cases fs with
        | nil => rfl
        | cons f fs =>
          by_cases hc : client = e.1
          · subst hc
            rw [hs]
            dsimp only
            rw [Function.update_self]
            by_cases hlt : got + e.2 < f.size
            · rw [if_pos hlt, if_pos hlt]
              rfl
            · rw [if_neg hlt, if_neg hlt]
              simp [framesTo]
          · dsimp only
            rw [Function.update_of_ne hc]
            by_cases hlt : got + e.2 < f.size
            · rw [if_pos hlt]
              rfl
            · rw [if_neg hlt]
              simp [framesTo, Ne.symm hc]
    rw [completions, framesTo_append, List.append_assoc, streamsAfter, List.foldl_cons]
    rw [← hone, ← ih (readStream s e)]
    rfl

end RtMessage
