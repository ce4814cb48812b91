import RtMessage.RouterSpec

/- What one subscription is sent.

   A subscriber tells its subscriptions apart by the ids in the frames it is sent. Of the
   deliveries for a sequence of frames, those that go to a client under an id are the copies
   for the subscriptions it has under that id: none as long as it has none, and from one
   subscription on those of the frames that match its expression, in their order. -/
namespace RtMessage

def Subscription.bears (s : Subscription) (client : Nat) (id : UInt32) : Bool :=
  s.client == client && s.id == id

/-- The frames that bear an id. -/
def bearing (id : UInt32) (fs : List Frame) : List Frame := fs.filter (·.controlData == id)

theorem bearing_append (id : UInt32) (fs gs : List Frame) :
    bearing id (fs ++ gs) = bearing id fs ++ bearing id gs := List.filter_append fs gs

/-- No frame is a request, and so none is refused. -/
def NoRequests (fs : List (Nat × Frame)) : Prop :=
  ∀ p ∈ fs, rtMessageHeaderIsRequest p.2.header = false

section
variable {J : CJsonLib} {own : List Bytes} {table : List Subscription} {client : Nat} {id : UInt32}

theorem bearing_copy (s : Subscription) (f : Frame) :
    bearing id (framesTo client [(s.client, f.withControlData s.id)]) =
      if s.bears client id then [f.withControlData id] else [] := by
  have hdata : (f.withControlData s.id).controlData = s.id := rfl
  by_cases hc : s.client = client
  · by_cases hid : s.id = id
    · subst hc hid
      simp [bearing, framesTo, Subscription.bears, hdata]
    · simp [bearing, framesTo, Subscription.bears, hdata, hc, hid]
  · simp [bearing, framesTo, Subscription.bears, hc]

theorem bearing_copies (table : List Subscription) (f : Frame) :
    bearing id (framesTo client (copies table f)) =
      ((table.filter (·.bears client id)).filter (·.matches f)).map
        fun _ => f.withControlData id := by
  induction table with
  | nil => rfl
  | cons s rest ih =>
    by_cases hm : s.matches f = true
    · have hcons : copies (s :: rest) f =
          [(s.client, f.withControlData s.id)] ++ copies rest f := by
        rw [copies, List.filter_cons, if_pos hm]
        rfl
      rw [hcons, framesTo_append, bearing_append, bearing_copy, ih]
      by_cases hb : s.bears client id = true
      · rw [if_pos hb, List.filter_cons, if_pos hb, List.filter_cons, if_pos hm]
        rfl
      · rw [if_neg hb, List.filter_cons, if_neg hb, List.nil_append]
    · have hcons : copies (s :: rest) f = copies rest f := by
        rw [copies, List.filter_cons, if_neg hm]
        rfl
      rw [hcons, ih]
      by_cases hb : s.bears client id = true
      · rw [List.filter_cons, if_pos hb, List.filter_cons, if_neg hm]
      · rw [List.filter_cons, if_neg hb]

theorem outputs_of_no_request {p : Nat × Frame} (h : rtMessageHeaderIsRequest p.2.header = false) :
    outputs J own table p = copies table p.2 := by
  rw [outputs, refusals, h, Bool.and_false, if_neg Bool.false_ne_true, List.append_nil]

/-- **What a client is sent under an id** while no subscription under it is added. -/
theorem bearing_deliveries {table : List Subscription} {done : List (Nat × Frame)}
    (hplain : NoRequests done)
    (hnone : ∀ p ∈ done, ∀ s ∈ subscribed J p, s.bears client id = false) :
    bearing id (framesTo client (deliveries J own table done)) =
      done.flatMap fun p => ((table.filter (·.bears client id)).filter (·.matches p.2)).map
        fun _ => p.2.withControlData id := by
  induction done generalizing table with
  | nil => rfl
  | cons p rest ih =>
    have hkept : (table ++ subscribed J p).filter (·.bears client id) =
        table.filter (·.bears client id) := by
      have hnil : (subscribed J p).filter (·.bears client id) = [] :=
        List.filter_eq_nil_iff.mpr fun s hs => by
          rw [hnone p List.mem_cons_self s hs]
          exact Bool.false_ne_true
      rw [List.filter_append, hnil, List.append_nil]
    have ih : bearing id (framesTo client (deliveries J own (table ++ subscribed J p) rest)) = _ := ih
      (fun q hq => hplain q (List.mem_cons_of_mem p hq))
      (fun q hq => hnone q (List.mem_cons_of_mem p hq))
    rw [deliveries, outputs_of_no_request (hplain p List.mem_cons_self), framesTo_append,
      bearing_append, bearing_copies, ih, hkept, List.flatMap_cons]

/-- A client that has no subscription under an id is sent nothing under it. -/
theorem bearing_deliveries_none {done : List (Nat × Frame)} (hplain : NoRequests done)
    (htable : ∀ s ∈ table, s.bears client id = false)
    (hnone : ∀ p ∈ done, ∀ s ∈ subscribed J p, s.bears client id = false) :
    bearing id (framesTo client (deliveries J own table done)) = [] := by
  have hnil : table.filter (·.bears client id) = [] :=
    List.filter_eq_nil_iff.mpr fun s hs => by
      rw [htable s hs]
      exact Bool.false_ne_true
  rw [bearing_deliveries hplain hnone, hnil, List.flatMap_eq_nil_iff]
  exact fun p _ => rfl

theorem bearing_deliveries_one {u : Subscription} {done : List (Nat × Frame)}
    (hplain : NoRequests done) (htable : table.filter (·.bears client id) = [u])
    (hnone : ∀ p ∈ done, ∀ s ∈ subscribed J p, s.bears client id = false) :
    bearing id (framesTo client (deliveries J own table done)) =
      (done.filter fun p => u.matches p.2).map fun p => p.2.withControlData id := by
  rw [bearing_deliveries hplain hnone, htable]
  clear hplain hnone
  induction done with
  | nil => rfl
  | cons p rest ih =>
    rw [List.flatMap_cons, ih]
    by_cases hm : u.matches p.2 = true
    · rw [List.filter_cons, if_pos hm, List.filter_cons, if_pos hm]
      rfl
    · rw [List.filter_cons, if_neg hm, List.filter_cons, if_neg hm]
      rfl

/-- **One subscription**: from its SUBSCRIBE on, the frames that match its expression, and
    before it nothing. -/
theorem bearing_deliveries_subscribed {u : Subscription} {before after : List (Nat × Frame)}
    {p : Nat × Frame} (hplain : NoRequests (before ++ p :: after))
    (hu : subscribed J p = [u]) (hbears : u.bears client id = true)
    (hbefore : ∀ q ∈ before, ∀ s ∈ subscribed J q, s.bears client id = false)
    (hafter : ∀ q ∈ after, ∀ s ∈ subscribed J q, s.bears client id = false) :
    bearing id (framesTo client (deliveries J own [] (before ++ p :: after))) =
      (after.filter fun q => u.matches q.2).map fun q => q.2.withControlData id := by
  have hplain₁ : NoRequests before := fun q hq => hplain q (List.mem_append_left _ hq)
  have hplain₂ : NoRequests after := fun q hq =>
    hplain q (List.mem_append_right _ (List.mem_cons_of_mem p hq))
  have hrequest : rtMessageHeaderIsRequest p.2.header = false :=
    hplain p (List.mem_append_right _ List.mem_cons_self)
  let table := tableAfter J [] before
  have htable : table.filter (·.bears client id) = [] := by
    refine List.filter_eq_nil_iff.mpr fun s hs => ?_
    obtain ⟨q, hq, hs⟩ := List.mem_flatMap.mp (show s ∈ before.flatMap (subscribed J) from hs)
    rw [hbefore q hq s hs]
    exact Bool.false_ne_true
  have hone : (table ++ subscribed J p).filter (·.bears client id) = [u] := by
    rw [List.filter_append, htable, hu, List.filter_cons, if_pos hbears]
    rfl
  rw [deliveries_append, framesTo_append, bearing_append,
    bearing_deliveries_none hplain₁ (fun s hs => by cases hs) hbefore, List.nil_append,
    deliveries, framesTo_append, bearing_append, outputs_of_no_request hrequest, bearing_copies,
    show (tableAfter J [] before).filter (·.bears client id) = [] from htable,
    bearing_deliveries_one hplain₂ hone hafter]
  rfl

/-- What a client is sent is a copy, under the id of a subscription of its own. -/
theorem mem_framesTo_deliveries {table : List Subscription} {done : List (Nat × Frame)} {g : Frame}
    (hplain : NoRequests done) (hg : g ∈ framesTo client (deliveries J own table done)) :
    ∃ p ∈ done, ∃ s ∈ tableAfter J table done, s.client = client ∧ g = p.2.withControlData s.id := by
  induction done generalizing table with
  | nil => cases hg
  | cons p rest ih =>
    rw [deliveries, outputs_of_no_request (hplain p List.mem_cons_self), framesTo_append] at hg
    cases List.mem_append.mp hg with
    | inl hg =>
      obtain ⟨c, hc, hto⟩ := List.mem_filterMap.mp hg
      obtain ⟨s, hs, rfl⟩ := List.mem_map.mp hc
      split at hto
      · next hclient =>
        cases hto
        exact ⟨p, List.mem_cons_self, s, List.mem_append_left _ (List.mem_filter.mp hs).1,
          hclient, rfl⟩
      · cases hto
    | inr hg =>
      obtain ⟨q, hq, s, hs, hclient, heq⟩ :=
        ih (fun q hq => hplain q (List.mem_cons_of_mem p hq)) hg
      refine ⟨q, List.mem_cons_of_mem p hq, s, ?_, hclient, heq⟩
      rw [tableAfter, List.append_assoc] at hs
      exact hs

end

end RtMessage
