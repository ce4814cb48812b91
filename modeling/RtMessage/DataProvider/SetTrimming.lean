import RtMessage.DataProvider.Client

/- The loops that trim a set query `n=v` to the name of its object.

   A turn cuts at the last dot, or takes `n` if `v` is in braces. What is left of `v` is in
   braces at some turn if `v` begins with `{` and has a `}` at its end or in front of a dot
   (`SeenInBraces`). So the loops come to the name `n`, or cut `n` at its last dot; if it has none,
   they go on for ever. The host asks only whether the whole value is in braces. -/
namespace RtMessage.DataProvider

/-- Some turn finds the value in braces. -/
def SeenInBraces (v : Bytes) : Prop :=
  v.head? = some openBrace ∧ (v.getLast? = some closeBrace ∨ [closeBrace, dot] <:+: v)

instance (v : Bytes) : Decidable (SeenInBraces v) := inferInstanceAs (Decidable (_ ∧ _))

/-- What the variable of a loop holds in the end; it is empty if the query was trimmed to nothing. -/
def trimmedName (fuel : Nat) (s : Bytes) : Except Fault Bytes :=
  (trimLoop fuel s).map fun trimmed => trimmed.getD []

/-! A turn. -/

section Turn
variable {a b n o s v : Bytes} {fuel : Nat}

theorem brace_before_dot (hb : dot ∉ b) : [closeBrace, dot] <:+: a ++ dot :: b ↔
    a.getLast? = some closeBrace ∨ [closeBrace, dot] <:+: a := by
  constructor
  · intro h
    obtain ⟨x, y, hxy⟩ := h
    have hsplit : (x ++ [closeBrace]) ++ dot :: y = a ++ dot :: b := by
      rw [← hxy]
      simp
    rcases List.append_eq_append_iff.mp hsplit with ⟨c, rfl, hc⟩ | ⟨c, hc, hb'⟩
    · cases c with
      | nil => exact .inl (by simp)
      | cons d c =>
        obtain ⟨rfl, _⟩ := List.cons.inj hc
        exact .inr ⟨x, c, by simp⟩
    · cases c with
      | nil =>
        rw [List.append_nil] at hc
        exact .inl (by simp [← hc])
      | cons d c =>
        obtain ⟨_, rfl⟩ := List.cons.inj hb'
        exact absurd (List.mem_append_right c List.mem_cons_self) hb
  · intro h
    cases h with
    | inl hlast =>
      obtain ⟨x, rfl⟩ := List.getLast?_eq_some_iff.mp hlast
      exact ⟨x, b, by simp⟩
    | inr hmem => exact hmem.trans (List.prefix_append a _).isInfix

theorem getLast?_value (n : Bytes) (hv : v ≠ []) : (n ++ equals :: v).getLast? = v.getLast? := by
  obtain ⟨c, w, rfl⟩ := List.exists_cons_of_ne_nil hv
  rw [List.getLast?_append, List.getLast?_cons_cons, List.getLast?_cons]
  rfl

theorem trimSetProperty_braces (hn : equals ∉ n) (hhead : v.head? = some openBrace)
    (hlast : v.getLast? = some closeBrace) : trimSetProperty (n ++ equals :: v) = n := by
  have hnext : (n ++ equals :: v)[n.length + 1]? = some openBrace := by
    rw [List.getElem?_append_right (Nat.le_succ _), Nat.succ_sub (Nat.le_refl _), Nat.sub_self,
      List.getElem?_cons_succ, ← List.head?_eq_getElem?, hhead]
  have hback : (n ++ equals :: v).getLast? = some closeBrace := by
    rw [getLast?_value n (List.ne_nil_of_mem (List.mem_of_mem_head? hhead)), hlast]
  have hlong : n.length + 1 < (n ++ equals :: v).length := (List.getElem?_eq_some_iff.mp hnext).1
  rw [trimSetProperty, find_append hn]
  dsimp only
  rw [if_pos ⟨hlong, hnext, hback⟩, List.take_left' rfl]

theorem trimSetProperty_plain (hn : equals ∉ n)
    (hplain : ¬ (v.head? = some openBrace ∧ v.getLast? = some closeBrace)) :
    trimSetProperty (n ++ equals :: v) = trimProperty (n ++ equals :: v) := by
  have hnext : (n ++ equals :: v)[n.length + 1]? = v.head? := by
    rw [List.getElem?_append_right (Nat.le_succ _), Nat.succ_sub (Nat.le_refl _), Nat.sub_self]
    exact List.head?_eq_getElem?.symm
  rw [trimSetProperty, find_append hn]
  dsimp only
  apply if_neg
  intro hbraces
  obtain ⟨_, hhead, hlast⟩ := hbraces
  rw [hnext] at hhead
  obtain ⟨w, rfl⟩ := List.head?_eq_some_iff.mp hhead
  apply hplain
  exact ⟨hhead, getLast?_value n (List.cons_ne_nil openBrace w) ▸ hlast⟩

/-- A turn that leaves a part of the value does not change whether some turn finds it in braces. -/
theorem braced_cut (hb : dot ∉ b)
    (hplain : ¬ ((a ++ dot :: b).head? = some openBrace ∧ (a ++ dot :: b).getLast? = some closeBrace)) :
    SeenInBraces a ↔ SeenInBraces (a ++ dot :: b) := by
  have hhead : (a ++ dot :: b).head? = some openBrace ↔ a.head? = some openBrace := by
    cases a with
    | nil => simp [dot, openBrace]
    | cons c a => simp
  rw [SeenInBraces, SeenInBraces, hhead, brace_before_dot hb]
  rw [hhead] at hplain
  constructor
  · intro h
    exact ⟨h.1, .inr h.2⟩
  · intro h
    refine ⟨h.1, h.2.resolve_left fun hlast => hplain ⟨h.1, hlast⟩⟩

/-! The loop. -/

theorem trimLoop_turn (hn : equals ∉ n) (fuel : Nat) :
    trimLoop (fuel + 1) (n ++ equals :: v) =
      if trimSetProperty (n ++ equals :: v) = [] then .ok none
      else trimLoop fuel (trimSetProperty (n ++ equals :: v)) := by
  rw [trimLoop, find_append hn]

theorem trimLoop_mono {t : Option Bytes} (h : trimLoop fuel s = .ok t) :
    ∀ {more : Nat}, fuel ≤ more → trimLoop more s = .ok t := by
  induction fuel generalizing s with
  | zero => cases h
  | succ fuel ih =>
    intro more hle
    obtain ⟨more, rfl⟩ : ∃ m, more = m + 1 := ⟨more - 1, by omega⟩
    rw [trimLoop] at h ⊢
    split
    · next hfind => rwa [hfind] at h
    · next hfind =>
      rw [hfind] at h
      dsimp only at h ⊢
      split
      · next hempty => rwa [if_pos hempty] at h
      · next hempty =>
        rw [if_neg hempty] at h
        exact ih h (by omega)

theorem trimmedName_mono (h : trimmedName fuel s = .ok o) {more : Nat} (hle : fuel ≤ more) :
    trimmedName more s = .ok o := by
  unfold trimmedName at h ⊢
  cases ht : trimLoop fuel s with
  | error f =>
    rw [ht] at h
    cases h
  | ok t => rwa [trimLoop_mono ht hle, ← ht]

theorem trimmedName_unique {more : Nat} (h : trimmedName fuel s = .ok o)
    (h' : trimmedName more s = .ok n) : o = n := by
  have hmax := trimmedName_mono h (Nat.le_max_left fuel more)
  rw [trimmedName_mono h' (Nat.le_max_right fuel more)] at hmax
  exact (Except.ok.inj hmax).symm

theorem trimmedName_done (hs : equals ∉ s) : trimmedName (fuel + 1) s = .ok s := by
  rw [trimmedName, trimLoop_done hs]
  rfl

theorem trimmedName_turn (hn : equals ∉ n) (fuel : Nat) :
    trimmedName (fuel + 2) (n ++ equals :: v) =
      trimmedName (fuel + 1) (trimSetProperty (n ++ equals :: v)) := by
  rw [trimmedName, trimLoop_turn hn]
  split
  · next hempty =>
    rw [hempty, trimmedName_done List.not_mem_nil]
    rfl
  · rfl

/-- A turn finds the value in braces, cuts it, or cuts the name in front of it. -/
theorem trim_cases (hn : equals ∉ n) (v : Bytes) :
    (SeenInBraces v ∧ trimSetProperty (n ++ equals :: v) = n) ∨
    (∃ a, a.length < v.length ∧ (SeenInBraces a ↔ SeenInBraces v) ∧
      trimSetProperty (n ++ equals :: v) = n ++ equals :: a) ∨
    (¬ SeenInBraces v ∧ dot ∉ v ∧ trimSetProperty (n ++ equals :: v) = trimProperty (n ++ equals :: v)) := by
  by_cases hbraces : v.head? = some openBrace ∧ v.getLast? = some closeBrace
  · exact .inl ⟨⟨hbraces.1, .inl hbraces.2⟩, trimSetProperty_braces hn hbraces.1 hbraces.2⟩
  · right
    by_cases hdot : dot ∈ v
    · obtain ⟨a, b, rfl, hb⟩ := eq_append_last hdot
      have hsplit : n ++ equals :: (a ++ dot :: b) = (n ++ equals :: a) ++ dot :: b := by simp
      refine .inl ⟨a, by simp, braced_cut hb hbraces, ?_⟩
      rw [trimSetProperty_plain hn hbraces, hsplit, trimProperty_append _ hb]
    · refine .inr ⟨fun hbraced => ?_, hdot, trimSetProperty_plain hn hbraces⟩
      cases hbraced.2 with
      | inl hlast => exact hbraces ⟨hbraced.1, hlast⟩
      | inr hcut => exact hdot (hcut.subset (List.mem_cons_of_mem _ List.mem_cons_self))

theorem trimmed_braced (hn : equals ∉ n) (hv : SeenInBraces v) :
    ∃ fuel, trimmedName (fuel + 1) (trimSetProperty (n ++ equals :: v)) = .ok n := by
  induction hlen : v.length using Nat.strong_induction_on generalizing v with
  | _ len ih =>
    rcases trim_cases hn v with ⟨_, htrim⟩ | ⟨a, hshort, hbraced, htrim⟩ | ⟨hplain, _⟩
    · exact ⟨0, by rw [htrim, trimmedName_done hn]⟩
    · obtain ⟨fuel, hfuel⟩ := ih a.length (hlen ▸ hshort) (hbraced.mpr hv) rfl
      exact ⟨fuel + 1, by rw [htrim, trimmedName_turn hn, hfuel]⟩
    · exact absurd hv hplain

theorem trimmed_plain (hn : equals ∉ o ++ dot :: n) (hdot : dot ∉ n) (hv : ¬ SeenInBraces v) :
    ∃ fuel, trimmedName (fuel + 1) (trimSetProperty (o ++ dot :: n ++ equals :: v)) = .ok o := by
  induction hlen : v.length using Nat.strong_induction_on generalizing v with
  | _ len ih =>
    rcases trim_cases hn v with ⟨hbraced, _⟩ | ⟨a, hshort, hbraced, htrim⟩ | ⟨_, hcut, htrim⟩
    · exact absurd hbraced hv
    · obtain ⟨fuel, hfuel⟩ := ih a.length (hlen ▸ hshort) (fun ha => hv (hbraced.mp ha)) rfl
      exact ⟨fuel + 1, by rw [htrim, trimmedName_turn hn, hfuel]⟩
    · have hlast : dot ∉ n ++ equals :: v := by
        simp only [List.mem_append, List.mem_cons, not_or]
        exact ⟨hdot, by decide, hcut⟩
      have hobject : equals ∉ o := fun hmem => hn (List.mem_append_left _ hmem)
      have hsplit : o ++ dot :: n ++ equals :: v = o ++ dot :: (n ++ equals :: v) := by simp
      refine ⟨0, ?_⟩
      rw [htrim, hsplit, trimProperty_append _ hlast, trimmedName_done hobject]

/-- Without a dot to cut at, a turn gives back what it was given. -/
theorem trimmed_never (hn : equals ∉ n) (hdot : dot ∉ n) (hv : ¬ SeenInBraces v) :
    (∃ a, trimSetProperty (n ++ equals :: v) = n ++ equals :: a ∧ ¬ SeenInBraces a) ∧
    ∀ fuel, trimLoop fuel (n ++ equals :: v) = .error .outOfFuel := by
  have hturn : ∀ v, ¬ SeenInBraces v → ∃ a, trimSetProperty (n ++ equals :: v) = n ++ equals :: a ∧
      ¬ SeenInBraces a := by
    intro v hv
    rcases trim_cases hn v with ⟨hbraced, _⟩ | ⟨a, _, hbraced, htrim⟩ | ⟨hplain, hcut, htrim⟩
    · exact absurd hbraced hv
    · exact ⟨a, htrim, fun ha => hv (hbraced.mp ha)⟩
    · have hnone : dot ∉ n ++ equals :: v := by
        simp only [List.mem_append, List.mem_cons, not_or]
        exact ⟨hdot, by decide, hcut⟩
      refine ⟨v, ?_, hplain⟩
      rw [htrim, trimProperty_of_not_mem hnone]
  refine ⟨hturn v hv, fun fuel => ?_⟩
  induction fuel generalizing v with
  | zero => rfl
  | succ fuel ih =>
    obtain ⟨a, htrim, ha⟩ := hturn v hv
    rw [trimLoop_turn hn, htrim, if_neg (by simp), ih ha]

end Turn

/-! Which set queries are trimmed to an end. -/

/-- There is a dot in front of the first `=`, or the value is found in braces at some turn. -/
def TrimmingEnds (s : Bytes) : Prop :=
  ∀ idx, find s equals = some idx → dot ∈ s.take idx ∨ SeenInBraces (s.drop (idx + 1))

section Queries
variable {n s v name : Bytes} {fuel : Nat} {db : ModelDb} {q : DmQueryImpl}

theorem trimmingEnds_value (hn : equals ∉ n) :
    TrimmingEnds (n ++ equals :: v) ↔ dot ∈ n ∨ SeenInBraces v := by
  unfold TrimmingEnds
  rw [find_append hn]
  simp only [Option.some.injEq, forall_eq']
  rw [List.take_left' rfl, drop_append_cons]

theorem queryObject_trimmed (h : trimmedName (fuel + 1) (trimSetProperty s) = .ok name) :
    queryObject db (fuel + 1) .set s = .ok (db.resolve name) := by
  rw [trimmedName] at h
  rw [queryObject]
  by_cases hempty : trimSetProperty s = []
  · rw [hempty, trimLoop_done List.not_mem_nil] at h
    obtain rfl := Except.ok.inj h
    rw [if_pos hempty]
    rfl
  · rw [if_neg hempty]
    cases ht : trimLoop (fuel + 1) (trimSetProperty s) with
    | error f =>
      rw [ht] at h
      cases h
    | ok t =>
      rw [ht] at h
      obtain rfl := Except.ok.inj h
      cases t with
      | none => rfl
      | some trimmed => rfl

theorem setQueryString_eq (hn : equals ∉ n) :
    q.setQueryString fuel .set (n ++ equals :: v) =
      (trimLoop fuel (trimSetProperty (n ++ equals :: v))).map fun trimmed =>
        (trimmed.isSome, { q with operation := ascii "set", query := n, value := v
                                  instanceName := trimmed.getD [] }) := by
  rw [DmQueryImpl.setQueryString]
  dsimp only
  rw [find_append hn]
  dsimp only
  rw [List.take_left' rfl, drop_append_cons]
  cases trimLoop fuel (trimSetProperty (n ++ equals :: v)) with
  | error f => rfl
  | ok trimmed =>
    cases trimmed with
    | none => rfl
    | some instanceName => rfl

theorem setQueryString_trimmed (hn : equals ∉ n) :
    (∃ status q', q.setQueryString fuel .set (n ++ equals :: v) = .ok (status, q') ∧
      q'.instanceName = name) ↔
    trimmedName fuel (trimSetProperty (n ++ equals :: v)) = .ok name := by
  rw [setQueryString_eq hn, trimmedName]
  cases trimLoop fuel (trimSetProperty (n ++ equals :: v)) with
  | error f =>
    constructor
    · intro h
      obtain ⟨_, _, hset, _⟩ := h
      cases hset
    · intro h
      cases h
  | ok trimmed =>
    constructor
    · intro h
      obtain ⟨_, _, hset, rfl⟩ := h
      cases hset
      rfl
    · intro h
      obtain rfl := Except.ok.inj h
      exact ⟨_, _, rfl, rfl⟩

theorem equals_trimSetProperty (h : equals ∉ s) : equals ∉ trimSetProperty s := by
  rw [trimSetProperty, find_eq_none h]
  dsimp only
  rw [trimProperty]
  split
  · exact fun hmem => h (List.mem_of_mem_take hmem)
  · exact h

theorem exists_trimmedName (h : TrimmingEnds s) :
    ∃ fuel name, trimmedName (fuel + 1) (trimSetProperty s) = .ok name := by
  by_cases hmem : equals ∈ s
  · obtain ⟨n, v, rfl, hn⟩ := List.eq_append_cons_of_mem hmem
    by_cases hv : SeenInBraces v
    · obtain ⟨fuel, hfuel⟩ := trimmed_braced hn hv
      exact ⟨fuel, n, hfuel⟩
    · obtain ⟨o, t, rfl, ht⟩ := eq_append_last (((trimmingEnds_value hn).mp h).resolve_right hv)
      obtain ⟨fuel, hfuel⟩ := trimmed_plain hn ht hv
      exact ⟨fuel, o, hfuel⟩
  · exact ⟨0, _, trimmedName_done (equals_trimSetProperty hmem)⟩

theorem setQueryString_ends (q : DmQueryImpl)
    (h : trimmedName (fuel + 1) (trimSetProperty s) = .ok name) :
    ∃ r, q.setQueryString (fuel + 1) .set s = .ok r := by
  by_cases hmem : equals ∈ s
  · obtain ⟨n, v, rfl, hn⟩ := List.eq_append_cons_of_mem hmem
    obtain ⟨status, q', hset, _⟩ := (setQueryString_trimmed (q := q) hn).mpr h
    exact ⟨_, hset⟩
  · refine ⟨(false, { q with operation := ascii "set" }), ?_⟩
    rw [DmQueryImpl.setQueryString]
    dsimp only
    rw [find_eq_none hmem]

theorem createQuery_ends (db : ModelDb)
    (h : trimmedName (fuel + 1) (trimSetProperty s) = .ok name) :
    ∃ r, createQuery db (fuel + 1) .set (some s) = .ok r := by
  rw [createQuery, queryObject_trimmed h, ok_bind]
  cases db.resolve name with
  | none => exact ⟨none, rfl⟩
  | some o =>
    obtain ⟨r, hr⟩ := setQueryString_ends {} h
    dsimp only
    rw [hr]
    exact ⟨_, rfl⟩

end Queries

/-- The loops of a set query end exactly under this condition. -/
theorem set_trimming_ends_iff (db : ModelDb) (q : DmQueryImpl) (s : Bytes) :
    ((∃ fuel, createQuery db fuel .set (some s) ≠ .error .outOfFuel) ∧
      ∃ fuel, q.setQueryString fuel .set s ≠ .error .outOfFuel) ↔ TrimmingEnds s := by
  constructor
  · intro h idx hidx
    obtain ⟨_, fuel, hset⟩ := h
    have hmem : equals ∈ s := by
      by_contra hnone
      rw [find_eq_none hnone] at hidx
      cases hidx
    obtain ⟨n, v, rfl, hn⟩ := List.eq_append_cons_of_mem hmem
    rw [find_append hn] at hidx
    obtain rfl := Option.some.inj hidx
    rw [List.take_left' rfl, drop_append_cons]
    by_contra hnever
    obtain ⟨hdot, hv⟩ := not_or.mp hnever
    obtain ⟨⟨a, htrim, ha⟩, _⟩ := trimmed_never hn hdot hv
    apply hset
    rw [setQueryString_eq hn, htrim, (trimmed_never hn hdot ha).2 fuel]
    rfl
  · intro h
    obtain ⟨fuel, name, hname⟩ := exists_trimmedName h
    obtain ⟨r, hr⟩ := createQuery_ends db hname
    obtain ⟨r', hr'⟩ := setQueryString_ends q hname
    exact ⟨⟨fuel + 1, by rw [hr]; exact fun heq => by cases heq⟩,
      fuel + 1, by rw [hr']; exact fun heq => by cases heq⟩

/-- `a=b` is trimmed for ever. -/
theorem trimming_never_ends : ¬ ∀ (db : ModelDb) (q : DmQueryImpl) (s : Bytes),
    (∃ fuel, createQuery db fuel .set (some s) ≠ .error .outOfFuel) ∧
      ∃ fuel, q.setQueryString fuel .set s ≠ .error .outOfFuel := by
  intro h
  have hnever : ∀ fuel, trimLoop fuel (ascii "a=b") = .error .outOfFuel :=
    (trimmed_never (n := ascii "a") (v := ascii "b") (by decide) (by decide) (by decide)).2
  have htrim : trimSetProperty (ascii "a=b") = ascii "a=b" := by decide
  obtain ⟨fuel, hfuel⟩ := (h fanDb {} (ascii "a=b")).1
  apply hfuel
  rw [createQuery, queryObject]
  dsimp only
  rw [htrim, if_neg (by decide), hnever]
  rfl

/-! What the client and the host take a set query for. -/

/-- The object of a set of `target`: it is named itself if the value is one for several
    properties, else by what is in front of the last token. -/
def setObjectName (target value : Bytes) : Bytes :=
  if (parseMultisetValue value).isSome then target else trimProperty target

/-- The client comes to this name, where it looks the object up and where it sends the request,
    and the host looks the same name up. -/
structure ClassifiedAlike (target value : Bytes) : Prop where
  created : ∃ fuel, ∀ db, queryObject db fuel .set (target ++ equals :: value) =
    .ok (db.resolve (setObjectName target value))
  sent : ∃ fuel, ∀ q : DmQueryImpl, ∃ status q',
    q.setQueryString fuel .set (target ++ equals :: value) = .ok (status, q') ∧
    q'.instanceName = setObjectName target value
  lookedUp : ∀ db, ∃ nameVals, decodeAssignments db (some target) value =
    .ok (db.resolve (setObjectName target value), nameVals)

section Classified
variable {target value : Bytes}

theorem parseMultisetValue_isSome : (parseMultisetValue value).isSome ↔
    value.head? = some openBrace ∧ value.getLast? = some closeBrace := by
  rw [parseMultisetValue]
  constructor
  · intro h
    split at h
    · cases h
    · next hform =>
      simp only [not_or, not_not] at hform
      exact hform.2
  · intro h
    obtain ⟨hhead, hlast⟩ := h
    obtain ⟨w, rfl⟩ := List.head?_eq_some_iff.mp hhead
    rw [if_neg]
    · rfl
    · simp only [not_or, not_not]
      refine ⟨?_, hhead, hlast⟩
      cases w with
      | nil => exact absurd hlast (by decide)
      | cons c w => simp

theorem decodeAssignments_object (db : ModelDb) (target value : Bytes) : ∃ nameVals,
    decodeAssignments db (some target) value =
      .ok (db.resolve (setObjectName target value), nameVals) := by
  rw [decodeAssignments, stdString, ok_bind, setObjectName]
  cases parseMultisetValue value with
  | some nameVals => exact ⟨nameVals, rfl⟩
  | none =>
    refine ⟨[(trimPropertyName target, value)], ?_⟩
    dsimp only
    rw [lookup_objectOf, ok_bind, objectOf, objectPath_eq]
    rfl

/-- The name the client comes to is decided by whether some turn finds the value in braces. -/
theorem client_name (value : Bytes) (hdot : dot ∈ target) (heq : equals ∉ target) :
    ∃ fuel, trimmedName (fuel + 1) (trimSetProperty (target ++ equals :: value)) =
      .ok (if SeenInBraces value then target else trimProperty target) := by
  by_cases hv : SeenInBraces value
  · rw [if_pos hv]
    exact trimmed_braced heq hv
  · obtain ⟨o, n, rfl, hn⟩ := eq_append_last hdot
    rw [if_neg hv, trimProperty_append o hn]
    exact trimmed_plain heq hn hv

end Classified

/-- Client and host agree unless the value begins with a brace, has a closing one in front of a
    dot, and does not end with one. -/
theorem classified_alike_iff (target value : Bytes) (hdot : dot ∈ target) (heq : equals ∉ target) :
    ClassifiedAlike target value ↔ ¬ (value.head? = some openBrace ∧
      value.getLast? ≠ some closeBrace ∧ [closeBrace, dot] <:+: value) := by
  obtain ⟨fuel, hname⟩ := client_name value hdot heq
  constructor
  · intro h hmixed
    obtain ⟨hhead, hlast, hbrace⟩ := hmixed
    have hv : SeenInBraces value := ⟨hhead, .inr hbrace⟩
    have hsingle : ¬ (parseMultisetValue value).isSome = true := fun hmulti =>
      hlast (parseMultisetValue_isSome.mp hmulti).2
    rw [if_pos hv] at hname
    obtain ⟨more, hsent⟩ := h.sent
    have hother := (setQueryString_trimmed heq).mp (hsent {})
    rw [setObjectName, if_neg hsingle] at hother
    have hsame := congrArg List.length (trimmedName_unique hname hother)
    have hshorter := trimProperty_length_lt hdot
    omega
  · intro hform
    have hsame : (if SeenInBraces value then target else trimProperty target) =
        setObjectName target value := by
      rw [setObjectName]
      by_cases hmulti : (parseMultisetValue value).isSome = true
      · obtain ⟨hhead, hlast⟩ := parseMultisetValue_isSome.mp hmulti
        rw [if_pos hmulti, if_pos ⟨hhead, .inl hlast⟩]
      · rw [if_neg hmulti, if_neg]
        intro hv
        have hlast : value.getLast? ≠ some closeBrace := fun hlast =>
          hmulti (parseMultisetValue_isSome.mpr ⟨hv.1, hlast⟩)
        exact hform ⟨hv.1, hlast, hv.2.resolve_left hlast⟩
    rw [hsame] at hname
    exact {
      created := ⟨fuel + 1, fun db => queryObject_trimmed hname⟩
      sent := ⟨fuel + 1, fun q => (setQueryString_trimmed heq).mpr hname⟩
      lookedUp := fun db => decodeAssignments_object db target value }

theorem classified_alike_iff_example :
    ClassifiedAlike (ascii "WiFi.Name") (ascii "a.b") ↔ ¬ ((ascii "a.b").head? = some openBrace ∧
      (ascii "a.b").getLast? ≠ some closeBrace ∧ [closeBrace, dot] <:+: ascii "a.b") :=
  classified_alike_iff (ascii "WiFi.Name") (ascii "a.b") (by decide) (by decide)

/-- The value `{a}.b` is one for several properties to the client, and one for the property
    `Name` to the host. -/
theorem classified_differently : ¬ ∀ target value : Bytes, dot ∈ target → equals ∉ target →
    ClassifiedAlike target value := by
  intro h
  have halike := h (ascii "WiFi.Name") (ascii "\x7ba\x7d.b") (by decide) (by decide)
  have hsingle : setObjectName (ascii "WiFi.Name") (ascii "\x7ba\x7d.b") = ascii "WiFi" := by decide
  obtain ⟨fuel, hsent⟩ := halike.sent
  have hhost := (setQueryString_trimmed (n := ascii "WiFi.Name") (v := ascii "\x7ba\x7d.b")
    (by decide)).mp (hsent {})
  rw [hsingle] at hhost
  have hclient : trimmedName 2 (trimSetProperty (ascii "WiFi.Name=\x7ba\x7d.b")) =
      .ok (ascii "WiFi.Name") := by rfl
  have hsame := trimmedName_unique hclient hhost
  exact absurd hsame (by decide)

end RtMessage.DataProvider
