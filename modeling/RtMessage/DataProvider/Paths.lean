import RtMessage.DataProvider.Database

/- Which object a path leads to.

   The tokens of a path are those of an object's name, and behind each list among the objects
   on the way stands one token more, which names an instance. `getProviderByObjectName` goes
   through the tokens with a flag that says whether the next one names an instance; this file
   1. says what the instance paths of an object are (`InstancePath`), without the loop;
   2. proves that the loop finds the object for these paths and for no others;
   3. gives what a path that resolves leads to when a token is added. -/
namespace RtMessage.DataProvider

/-! Tokens. -/

def tokens (s : Bytes) : List Bytes := s.splitOn dot

def joinDots (ts : List Bytes) : Bytes := [dot].intercalate ts

section Tokens
variable {s t : Bytes} {ts : List Bytes}

theorem joinDots_tokens (s : Bytes) : joinDots (tokens s) = s := List.intercalate_splitOn dot

theorem tokens_joinDots (hne : ts ≠ []) (h : ∀ t ∈ ts, dot ∉ t) : tokens (joinDots ts) = ts :=
  List.splitOn_intercalate dot h hne

theorem tokens_ne_nil (s : Bytes) : tokens s ≠ [] := List.splitOn_ne_nil dot s

theorem tokens_of_not_mem (h : dot ∉ s) : tokens s = [s] := List.splitOn_eq_singleton h

theorem tokens_append (a b : Bytes) : tokens (a ++ dot :: b) = tokens a ++ tokens b :=
  List.splitOn_append_cons_self a b

theorem joinDots_concat (hne : ts ≠ []) (t : Bytes) :
    joinDots (ts ++ [t]) = joinDots ts ++ dot :: t := by
  induction ts with
  | nil => exact absurd rfl hne
  | cons u us ih =>
    cases us with
    | nil => simp [joinDots]
    | cons v vs =>
      have htail := ih (List.cons_ne_nil v vs)
      simp only [joinDots, List.cons_append, List.intercalate_cons_cons] at htail ⊢
      rw [htail]
      simp

theorem dot_not_mem_token (h : t ∈ tokens s) : dot ∉ t := by
  induction hn : s.length using Nat.strong_induction_on generalizing s with
  | _ n ih =>
    by_cases hmem : dot ∈ s
    · obtain ⟨a, b, rfl, ha⟩ := List.eq_append_cons_of_mem hmem
      rw [tokens_append, tokens_of_not_mem ha] at h
      cases List.mem_append.mp h with
      | inl hhead => exact List.mem_singleton.mp hhead ▸ ha
      | inr htail =>
        have hshort : b.length < n := by
          simp only [List.length_append, List.length_cons] at hn
          omega
        exact ih b.length hshort htail rfl
    · rw [tokens_of_not_mem hmem] at h
      exact List.mem_singleton.mp h ▸ hmem

/-- The first token of a path that does not begin with a dot is not empty. -/
theorem head_tokens (hne : s ≠ []) (h : s.head? ≠ some dot) : (tokens s).head? ≠ some [] := by
  intro hhead
  obtain ⟨ts, hts⟩ := List.head?_eq_some_iff.mp hhead
  have hs : s = joinDots ([] :: ts) := by rw [← hts, joinDots_tokens]
  cases ts with
  | nil => exact hne hs
  | cons u us =>
    apply h
    rw [hs, joinDots, List.intercalate_cons_cons]
    rfl

end Tokens

namespace ModelDb
variable {db : ModelDb} {n : Bytes} {o : DmProviderInfo}

theorem find_name (h : db.find n = some o) : o.objectName = n := by
  rw [find] at h
  have hname := List.find?_some h
  exact beq_iff_eq.mp hname

theorem find_mem (h : db.find n = some o) : o ∈ db.objects := List.mem_of_find?_eq_some h

theorem find_of_mem (h : o ∈ db.objects) : db.find o.objectName = some o := by
  obtain ⟨before, behind, hsplit⟩ := List.append_of_mem h
  have hsorted := db.sorted
  rw [hsplit] at hsorted
  have hbefore : ∀ x ∈ before, ¬ (x.objectName == o.objectName) = true := by
    intro x hx heq
    have hlt := (List.pairwise_append.mp hsorted).2.2 x hx o List.mem_cons_self
    rw [beq_iff_eq.mp heq] at hlt
    exact List.lt_irrefl _ hlt
  rw [find, hsplit, List.find?_append, List.find?_eq_none.mpr hbefore, List.find?_cons_of_pos]
  · rfl
  · exact beq_self_eq_true _

end ModelDb

/-! Instance paths. -/

/-- The tokens are the name of a list. -/
def ModelDb.ListAt (db : ModelDb) (ts : List Bytes) : Prop :=
  ∃ o, db.find (joinDots ts) = some o ∧ o.isList = true

def ModelDb.Has (db : ModelDb) (ts : List Bytes) : Prop := (db.find (joinDots ts)).isSome

/-- Behind the tokens `front` of a name, its tokens `back` are given by `path`: each list in
    front of the last token has one token behind it, and a list that is the last one may have
    one. The flag is whether the last token of `path` is such a token. -/
inductive Gives (db : ModelDb) : List Bytes → List Bytes → List Bytes → Bool → Prop where
  | last {front : List Bytes} {t : Bytes} : Gives db front [t] [t] false
  | item {front : List Bytes} {t id : Bytes} (hlist : db.ListAt (front ++ [t])) :
      Gives db front [t] [t, id] true
  | plain {front back path : List Bytes} {t : Bytes} {b : Bool}
      (hplain : ¬ db.ListAt (front ++ [t])) (h : Gives db (front ++ [t]) back path b) :
      Gives db front (t :: back) (t :: path) b
  | instance {front back path : List Bytes} {t id : Bytes} {b : Bool}
      (hlist : db.ListAt (front ++ [t])) (h : Gives db (front ++ [t]) back path b) :
      Gives db front (t :: back) (t :: id :: path) b

/-- `p` is an instance path of `R`; the flag is whether it ends with the token of an instance. -/
structure InstancePath (db : ModelDb) (p : Bytes) (R : DmProviderInfo) (b : Bool) : Prop where
  mem : R ∈ db.objects
  gives : Gives db [] (tokens R.objectName) (tokens p) b
  present : ∀ a c, a <+: c → c <+: tokens R.objectName → db.Has a → db.Has c

/-! What a token more does to the part of a path that is behind the tokens `front`. -/

/-- The prefixes of a name are present from the first one on. -/
def ModelDb.Closed (db : ModelDb) (ts : List Bytes) : Prop :=
  ∀ a c, a <+: c → c <+: ts → db.Has a → db.Has c

/-- `path` goes on from `front` to the object `R`. -/
def Leads (db : ModelDb) (front path : List Bytes) (R : DmProviderInfo) (b : Bool) : Prop :=
  ∃ back, Gives db front back path b ∧ db.find (joinDots (front ++ back)) = some R ∧
    db.Closed (front ++ back)

/-- It does so, or there is nothing more of the path and `R` is the object `o` of `front`. -/
def Reads (db : ModelDb) (o : DmProviderInfo) (x : Bool) (front path : List Bytes)
    (R : DmProviderInfo) (b : Bool) : Prop :=
  (path = [] ∧ R = o ∧ b = x) ∨ Leads db front path R b

section Leading
variable {db : ModelDb} {front back path : List Bytes} {t : Bytes} {R o : DmProviderInfo} {b x : Bool}

theorem ModelDb.has_of_find (h : db.find (joinDots front) = some o) : db.Has front := by
  rw [Has, h]
  rfl

theorem ModelDb.not_has_of_find (h : db.find (joinDots front) = none) : ¬ db.Has front := by
  rw [Has, h]
  exact Bool.false_ne_true

theorem ModelDb.listAt_iff (h : db.find (joinDots front) = some o) :
    db.ListAt front ↔ o.isList = true := by
  constructor
  · intro hlist
    obtain ⟨o', ho', hl⟩ := hlist
    exact Option.some.inj (h.symm.trans ho') ▸ hl
  · intro hl
    exact ⟨o, h, hl⟩

theorem ModelDb.not_listAt (h : db.find (joinDots front) = none) : ¬ db.ListAt front := by
  intro hlist
  obtain ⟨o, ho, _⟩ := hlist
  cases h.symm.trans ho

theorem ModelDb.Closed.concat (h : db.Closed front) (ho : db.find (joinDots (front ++ [t])) = some o) :
    db.Closed (front ++ [t]) := by
  intro a c hac hc ha
  cases List.prefix_concat_iff.mp hc with
  | inl heq => exact heq ▸ has_of_find ho
  | inr hfront => exact h a c hac hfront ha

theorem not_leads_nil : ¬ Leads db front [] R b := by
  intro h
  obtain ⟨back, hgives, _⟩ := h
  cases hgives

theorem Gives.leads (h : Gives db (front ++ [t]) back path b)
    (hR : db.find (joinDots (front ++ t :: back)) = some R) (hclosed : db.Closed (front ++ t :: back)) :
    Leads db (front ++ [t]) path R b := by
  refine ⟨back, h, ?_, ?_⟩
  · rwa [List.append_assoc]
  · rwa [List.append_assoc]

theorem leads_skip (h : Leads db (front ++ [t]) path R b) (hplain : ¬ db.ListAt (front ++ [t])) :
    Leads db front (t :: path) R b := by
  obtain ⟨back, hgives, hR, hclosed⟩ := h
  rw [List.append_assoc] at hR hclosed
  exact ⟨t :: back, .plain hplain hgives, hR, hclosed⟩

theorem leads_instance {id : Bytes} (h : Leads db (front ++ [t]) path R b)
    (hlist : db.ListAt (front ++ [t])) : Leads db front (t :: id :: path) R b := by
  obtain ⟨back, hgives, hR, hclosed⟩ := h
  rw [List.append_assoc] at hR hclosed
  exact ⟨t :: back, .instance hlist hgives, hR, hclosed⟩

theorem leads_absent (h : db.find (joinDots (front ++ [t])) = none) :
    Leads db front (t :: path) R b ↔ Leads db (front ++ [t]) path R b := by
  constructor
  · intro hleads
    obtain ⟨back, hgives, hR, hclosed⟩ := hleads
    cases hgives with
    | last => cases h.symm.trans hR
    | item hlist => exact absurd hlist (ModelDb.not_listAt h)
    | plain _ hgives => exact hgives.leads hR hclosed
    | «instance» hlist _ => exact absurd hlist (ModelDb.not_listAt h)
  · intro hleads
    exact leads_skip hleads (ModelDb.not_listAt h)

theorem leads_plain (hfront : db.Closed front) (ho : db.find (joinDots (front ++ [t])) = some o)
    (hl : o.isList = false) :
    Leads db front (t :: path) R b ↔ Reads db o false (front ++ [t]) path R b := by
  have hplain : ¬ db.ListAt (front ++ [t]) := by
    rw [ModelDb.listAt_iff ho, hl]
    exact Bool.false_ne_true
  constructor
  · intro hleads
    obtain ⟨back, hgives, hR, hclosed⟩ := hleads
    cases hgives with
    | last => exact .inl ⟨rfl, Option.some.inj (hR.symm.trans ho), rfl⟩
    | item hlist => exact absurd hlist hplain
    | plain _ hgives => exact .inr (hgives.leads hR hclosed)
    | «instance» hlist _ => exact absurd hlist hplain
  · intro hreads
    cases hreads with
    | inl hend =>
      obtain ⟨rfl, rfl, rfl⟩ := hend
      exact ⟨[t], .last, ho, hfront.concat ho⟩
    | inr hleads => exact leads_skip hleads hplain

theorem leads_list (hfront : db.Closed front) (ho : db.find (joinDots (front ++ [t])) = some o)
    (hl : o.isList = true) :
    Leads db front (t :: path) R b ↔
      (path = [] ∧ R = o ∧ b = false) ∨
      ∃ id rest, path = id :: rest ∧ Reads db o true (front ++ [t]) rest R b := by
  have hlist : db.ListAt (front ++ [t]) := (ModelDb.listAt_iff ho).mpr hl
  constructor
  · intro hleads
    obtain ⟨back, hgives, hR, hclosed⟩ := hleads
    cases hgives with
    | last => exact .inl ⟨rfl, Option.some.inj (hR.symm.trans ho), rfl⟩
    | item _ => exact .inr ⟨_, [], rfl, .inl ⟨rfl, Option.some.inj (hR.symm.trans ho), rfl⟩⟩
    | plain hplain _ => exact absurd hlist hplain
    | «instance» _ hgives => exact .inr ⟨_, _, rfl, .inr (hgives.leads hR hclosed)⟩
  · intro hcases
    cases hcases with
    | inl hend =>
      obtain ⟨rfl, rfl, rfl⟩ := hend
      exact ⟨[t], .last, ho, hfront.concat ho⟩
    | inr hitem =>
      obtain ⟨id, rest, rfl, hreads⟩ := hitem
      cases hreads with
      | inl hend =>
        obtain ⟨rfl, rfl, rfl⟩ := hend
        exact ⟨[t], .item hlist, ho, hfront.concat ho⟩
      | inr hleads => exact leads_instance hleads hlist

end Leading

/-! The loop. -/

/-- The tokens `front` are no object's name yet, nor is what is in front of them. -/
structure Searching (db : ModelDb) (front : List Bytes) (r : Resolving) : Prop where
  isList : r.isList = false
  fullName : r.fullName = joinDots front
  provider : r.provider = none
  absent : ∀ a, a <+: front → ¬ db.Has a

/-- The tokens `front` are the name of the object `o`. -/
structure Found (db : ModelDb) (front : List Bytes) (o : DmProviderInfo) (r : Resolving) : Prop where
  fullName : r.fullName = joinDots front
  provider : r.provider = some o
  found : db.find (joinDots front) = some o
  closed : db.Closed front

/-- What `getProviderByObjectName` makes of the last state. -/
def outcome : Option Resolving → Option DmProviderInfo × Bool
  | some r => (r.provider, r.isListItem)
  | none => (none, false)

section Loop
variable {db : ModelDb} {front path : List Bytes} {t : Bytes} {R o : DmProviderInfo} {b : Bool}
  {r : Resolving}

/-- The name grows by a dot and a token, but for the first token. -/
theorem fullName_concat (hname : joinDots front ≠ [] ∨ front = []) :
    (if joinDots front = [] then [] else joinDots front ++ [dot]) ++ t = joinDots (front ++ [t]) := by
  by_cases hfront : front = []
  · rw [hfront]
    simp [joinDots]
  · have hne : joinDots front ≠ [] := hname.resolve_right hfront
    rw [if_neg hne, joinDots_concat hfront]
    simp

theorem joinDots_concat_ne_nil (hname : joinDots front ≠ [] ∨ (front = [] ∧ t ≠ [])) :
    joinDots (front ++ [t]) ≠ [] := by
  cases hname with
  | inl hne =>
    have hfront : front ≠ [] := by
      intro heq
      rw [heq] at hne
      exact hne rfl
    rw [joinDots_concat hfront]
    simp
  | inr hfirst =>
    rw [hfirst.1]
    simpa [joinDots] using hfirst.2

theorem resolveToken_instance (hl : r.isList = true) :
    resolveToken db r t = some { r with isList := false, isListItem := true } := by
  rw [resolveToken, if_pos hl]

theorem resolveToken_found (hl : r.isList = false) (hfull : r.fullName = joinDots front)
    (hname : joinDots front ≠ [] ∨ front = []) (ho : db.find (joinDots (front ++ [t])) = some o) :
    resolveToken db r t = some { isList := o.isList, isListItem := false,
                                 fullName := joinDots (front ++ [t]), provider := some o } := by
  have hnot : ¬ r.isList = true := by simp [hl]
  rw [resolveToken, if_neg hnot, hfull]
  dsimp only
  rw [fullName_concat hname, ho]

/-- A name that is not there ends the loop behind an object, and only then. -/
theorem resolveToken_absent (hl : r.isList = false) (hfull : r.fullName = joinDots front)
    (hname : joinDots front ≠ [] ∨ front = []) (ho : db.find (joinDots (front ++ [t])) = none) :
    resolveToken db r t =
      if r.provider.isSome then none
      else some { r with isListItem := false, fullName := joinDots (front ++ [t]) } := by
  have hnot : ¬ r.isList = true := by simp [hl]
  rw [resolveToken, if_neg hnot, hfull]
  dsimp only
  rw [fullName_concat hname, ho]
  cases r.provider <;> rfl

theorem Found.name_ne_nil (h : Found db front o r) (hnames : ∀ o ∈ db.objects, o.objectName ≠ []) :
    joinDots front ≠ [] := by
  rw [← ModelDb.find_name h.found]
  exact hnames o (ModelDb.find_mem h.found)

theorem Found.enter (hclosed : db.Closed front) (ho : db.find (joinDots (front ++ [t])) = some o) :
    Found db (front ++ [t]) o
      { isList := o.isList, isListItem := false, fullName := joinDots (front ++ [t])
        provider := some o } :=
  ⟨rfl, rfl, ho, hclosed.concat ho⟩

theorem Found.instance (h : Found db front o r) :
    Found db front o { r with isList := false, isListItem := true } :=
  ⟨h.fullName, h.provider, h.found, h.closed⟩

/-- From an object on: behind a list that has no instance yet, the next token names one. -/
theorem outcome_found (hnames : ∀ o ∈ db.objects, o.objectName ≠ []) (path : List Bytes) :
    ∀ (front : List Bytes) (o : DmProviderInfo) (r : Resolving), Found db front o r →
      (r.isList = false → (outcome (path.foldlM (resolveToken db) r) = (some R, b) ↔
        Reads db o r.isListItem front path R b)) ∧
      (r.isList = true → (outcome (path.foldlM (resolveToken db) r) = (some R, b) ↔
        (path = [] ∧ R = o ∧ b = r.isListItem) ∨
        ∃ id rest, path = id :: rest ∧ Reads db o true front rest R b)) := by
  induction path with
  | nil =>
    intro front o r h
    have hend : outcome (([] : List Bytes).foldlM (resolveToken db) r) = (some R, b) ↔
        R = o ∧ b = r.isListItem := by
      simp only [List.foldlM_nil, pure, outcome, h.provider, Prod.mk.injEq, Option.some.injEq]
      exact and_congr eq_comm eq_comm
    refine ⟨fun _ => ?_, fun _ => ?_⟩
    · rw [hend, Reads]
      simp only [true_and, not_leads_nil, or_false]
    · rw [hend]
      simp
  | cons t path ih =>
    intro front o r h
    refine ⟨fun hl => ?_, fun hl => ?_⟩
    · -- the token belongs to a name
      rw [List.foldlM_cons]
      have hname := Or.inl (b := front = []) (h.name_ne_nil hnames)
      have hcons : Reads db o r.isListItem front (t :: path) R b ↔ Leads db front (t :: path) R b := by
        simp [Reads]
      rw [hcons]
      cases ho : db.find (joinDots (front ++ [t])) with
      | none =>
        rw [resolveToken_absent hl h.fullName hname ho, if_pos (by rw [h.provider]; rfl)]
        refine ⟨fun hout => (by cases hout), fun hleads => ?_⟩
        obtain ⟨back, hgives, hR, hclosed⟩ := (leads_absent ho).mp hleads
        have hhas : db.Has (front ++ [t]) := by
          refine hclosed front (front ++ [t]) (List.prefix_append _ _) ?_ (ModelDb.has_of_find h.found)
          exact List.prefix_append _ _
        exact absurd hhas (ModelDb.not_has_of_find ho)
      | some o' =>
        rw [resolveToken_found hl h.fullName hname ho]
        have hnext := ih (front ++ [t]) o' _ (Found.enter h.closed ho)
        by_cases hl' : o'.isList = true
        · rw [leads_list h.closed ho hl']
          exact hnext.2 hl'
        · have hplain : o'.isList = false := Bool.eq_false_iff.mpr hl'
          rw [leads_plain h.closed ho hplain]
          exact hnext.1 hplain
    · -- the token names an instance
      rw [List.foldlM_cons, resolveToken_instance hl]
      have hnext := (ih front o _ h.instance).1 rfl
      refine hnext.trans ⟨fun hreads => .inr ⟨t, path, rfl, hreads⟩, fun hcases => ?_⟩
      cases hcases with
      | inl hend => cases hend.1
      | inr hitem =>
        obtain ⟨id, rest, heq, hreads⟩ := hitem
        obtain ⟨rfl, rfl⟩ := List.cons.inj heq
        exact hreads

theorem outcome_searching (hnames : ∀ o ∈ db.objects, o.objectName ≠ []) (path : List Bytes) :
    ∀ (front : List Bytes) (r : Resolving), Searching db front r →
      (joinDots front ≠ [] ∨ (front = [] ∧ path.head? ≠ some [])) →
      (outcome (path.foldlM (resolveToken db) r) = (some R, b) ↔ Leads db front path R b) := by
  induction path with
  | nil =>
    intro front r h _
    refine ⟨fun hout => ?_, fun hleads => absurd hleads not_leads_nil⟩
    simp only [List.foldlM_nil, pure, outcome, h.provider] at hout
    cases hout
  | cons t path ih =>
    intro front r h hstart
    have hclosed : db.Closed front := fun a c hac hc ha => absurd ha (h.absent a (hac.trans hc))
    rw [List.foldlM_cons]
    have hname := hstart.imp_right And.left
    cases ho : db.find (joinDots (front ++ [t])) with
    | none =>
      rw [leads_absent ho, resolveToken_absent h.isList h.fullName hname ho,
        if_neg (by rw [h.provider]; exact Bool.false_ne_true)]
      apply ih
      · refine ⟨h.isList, rfl, h.provider, fun a ha => ?_⟩
        cases List.prefix_concat_iff.mp ha with
        | inl heq => exact heq ▸ ModelDb.not_has_of_find ho
        | inr hfront => exact h.absent a hfront
      · left
        apply joinDots_concat_ne_nil
        exact hstart.imp_right fun hfirst => ⟨hfirst.1, fun ht => hfirst.2 (by rw [ht]; rfl)⟩
    | some o =>
      rw [resolveToken_found h.isList h.fullName hname ho]
      have hnext := outcome_found (R := R) (b := b) hnames path (front ++ [t]) o _
        (Found.enter hclosed ho)
      by_cases hl : o.isList = true
      · rw [leads_list hclosed ho hl]
        exact hnext.2 hl
      · have hplain : o.isList = false := Bool.eq_false_iff.mpr hl
        rw [leads_plain hclosed ho hplain]
        exact hnext.1 hplain

end Loop

/-! Paths and objects. -/

section Resolution
variable {db : ModelDb} {front back path : List Bytes} {p t : Bytes} {R o : DmProviderInfo} {b x : Bool}

theorem Gives.ne_nil (h : Gives db front back path b) : back ≠ [] := by
  cases h <;> exact List.cons_ne_nil _ _

theorem Gives.mem (h : Gives db front back path b) (ht : t ∈ back) : t ∈ path := by
  induction h with
  | last => exact ht
  | item _ => exact List.mem_cons.mpr (.inl (List.mem_singleton.mp ht))
  | plain _ _ ih =>
    cases List.mem_cons.mp ht with
    | inl heq => exact heq ▸ List.mem_cons_self
    | inr htail => exact List.mem_cons_of_mem _ (ih htail)
  | «instance» _ _ ih =>
    cases List.mem_cons.mp ht with
    | inl heq => exact heq ▸ List.mem_cons_self
    | inr htail => exact List.mem_cons_of_mem _ (List.mem_cons_of_mem _ (ih htail))

theorem instancePath_iff : InstancePath db p R b ↔ Leads db [] (tokens p) R b := by
  constructor
  · intro h
    refine ⟨tokens R.objectName, h.gives, ?_, h.present⟩
    rw [List.nil_append, joinDots_tokens]
    exact ModelDb.find_of_mem h.mem
  · intro h
    obtain ⟨back, hgives, hR, hclosed⟩ := h
    rw [List.nil_append] at hR hclosed
    have hname : tokens R.objectName = back := by
      rw [ModelDb.find_name hR]
      exact tokens_joinDots hgives.ne_nil fun t ht => dot_not_mem_token (hgives.mem ht)
    refine ⟨ModelDb.find_mem hR, ?_, ?_⟩
    · rwa [hname]
    · rwa [hname]

theorem getProviderByObjectName_eq (hp : p ≠ []) :
    getProviderByObjectName db p x =
      outcome ((tokens p).foldlM (resolveToken db) { isListItem := x }) := by
  rw [getProviderByObjectName, if_neg hp, splitString_eq_splitOn]
  rfl

theorem not_instancePath_nil (hnames : ∀ o ∈ db.objects, o.objectName ≠ []) :
    ¬ InstancePath db [] R b := by
  intro h
  have hgives := h.gives
  generalize hname : tokens R.objectName = ts at hgives
  have hone : ts = [[]] := by
    cases hgives with
    | last => rfl
    | plain _ hnext => cases hnext
  apply hnames R h.mem
  rw [← joinDots_tokens R.objectName, hname, hone]
  rfl

theorem not_has_nil (hnames : ∀ o ∈ db.objects, o.objectName ≠ []) : ¬ db.Has [] := by
  cases ho : db.find (joinDots []) with
  | none => exact ModelDb.not_has_of_find ho
  | some o => exact absurd (ModelDb.find_name ho) (hnames o (ModelDb.find_mem ho))

theorem lookup_iff (hnames : ∀ o ∈ db.objects, o.objectName ≠ []) (hp : p.head? ≠ some dot) :
    getProviderByObjectName db p x = (some R, b) ↔ InstancePath db p R b := by
  by_cases hne : p = []
  · rw [hne, getProviderByObjectName, if_pos rfl]
    exact ⟨fun h => (by cases h), fun h => absurd h (not_instancePath_nil hnames)⟩
  · rw [getProviderByObjectName_eq hne, instancePath_iff]
    apply outcome_searching hnames
    · refine ⟨rfl, rfl, rfl, fun a ha => ?_⟩
      rw [List.prefix_nil.mp ha]
      exact not_has_nil hnames
    · exact .inr ⟨rfl, head_tokens hne hp⟩

/-- The lookup finds an object exactly for its instance paths, says whether the path ends
    with an instance, and finds nothing for any other path. -/
theorem resolves_iff_instancePath (hnames : ∀ o ∈ db.objects, o.objectName ≠ [])
    (hp : p.head? ≠ some dot) (x : Bool) :
    (∀ R b, getProviderByObjectName db p x = (some R, b) ↔ InstancePath db p R b) ∧
    ((¬ ∃ R b, InstancePath db p R b) → (getProviderByObjectName db p x).1 = none) := by
  refine ⟨fun R b => lookup_iff hnames hp, fun hnone => ?_⟩
  cases hR : (getProviderByObjectName db p x).1 with
  | none => rfl
  | some R =>
    have hpath : InstancePath db p R (getProviderByObjectName db p x).2 :=
      (lookup_iff hnames hp).mp (Prod.ext hR rfl)
    exact absurd ⟨R, _, hpath⟩ hnone

end Resolution

/-! The state behind a path. -/

/-- The name so far is that of the object, and the next token names an instance exactly behind
    a list that has none yet. -/
def Resolving.Valid (db : ModelDb) (r : Resolving) : Prop :=
  ∀ o, r.provider = some o → db.find r.fullName = some o ∧ r.isList = (o.isList && !r.isListItem)

/-- The object is the one of the name so far, if there is one. -/
def Resolving.Current (db : ModelDb) (r : Resolving) : Prop :=
  r.fullName ≠ [] → r.provider = db.find r.fullName

def walk (db : ModelDb) (p : Bytes) : Option Resolving :=
  (tokens p).foldlM (resolveToken db) { isListItem := false }

section Walking
variable {db : ModelDb} {p t : Bytes} {ts : List Bytes} {o o' : DmProviderInfo} {b : Bool}
  {r r' : Resolving}

/-- A token is an instance of the list before it, or it is put behind the name so far and the
    object is the one of that name; behind an object there must be one. -/
theorem resolveToken_cases (hr : resolveToken db r t = some r') :
    (r.isList = true ∧ r' = { r with isList := false, isListItem := true }) ∨
    (r.isList = false ∧ r'.isListItem = false ∧
      r'.fullName = (if r.fullName = [] then [] else r.fullName ++ [dot]) ++ t ∧
      r'.provider = db.find r'.fullName ∧ (r'.provider = none → r.provider = none) ∧
      ∀ o, r'.provider = some o → r'.isList = o.isList) := by
  rw [resolveToken] at hr
  split at hr
  · next hl =>
    cases hr
    exact .inl ⟨hl, rfl⟩
  · next hl =>
    right
    refine ⟨Bool.eq_false_iff.mpr hl, ?_⟩
    dsimp only at hr
    generalize (if r.fullName = [] then [] else r.fullName ++ [dot]) ++ t = name at hr ⊢
    cases hfind : db.find name with
    | some x =>
      rw [hfind] at hr
      cases hr
      exact ⟨rfl, rfl, hfind.symm, nofun, fun o ho => by cases ho; rfl⟩
    | none =>
      cases hp : r.provider with
      | none =>
        rw [hfind, hp] at hr
        cases hr
        exact ⟨rfl, rfl, hfind.symm, fun _ => rfl, fun o ho => by cases ho⟩
      | some x =>
        rw [hfind, hp] at hr
        cases hr

theorem resolveToken_plain (hl : r.isList = false) (hr : resolveToken db r t = some r') :
    r'.isListItem = false ∧
      r'.fullName = (if r.fullName = [] then [] else r.fullName ++ [dot]) ++ t := by
  rcases resolveToken_cases hr with ⟨hlist, -⟩ | ⟨-, hitem, hname, -⟩
  · rw [hl] at hlist
    cases hlist
  · exact ⟨hitem, hname⟩

theorem resolveToken_valid (h : r.Valid db) (hr : resolveToken db r t = some r') : r'.Valid db := by
  intro o ho
  rcases resolveToken_cases hr with ⟨-, rfl⟩ | ⟨-, hitem, -, hfind, -, hlist⟩
  · obtain ⟨hfind, hflag⟩ := h o ho
    refine ⟨hfind, ?_⟩
    simp
  · refine ⟨hfind.symm.trans ho, ?_⟩
    rw [hlist o ho, hitem]
    simp

theorem tokens_invariant {I : Resolving → Prop}
    (hstep : ∀ r t r', I r → resolveToken db r t = some r' → I r') (h : I r)
    (hr : ts.foldlM (resolveToken db) r = some r') : I r' := by
  induction ts generalizing r with
  | nil =>
    cases hr
    exact h
  | cons t ts ih =>
    rw [List.foldlM_cons] at hr
    obtain ⟨x, hx, hrest⟩ := Option.bind_eq_some_iff.mp hr
    exact ih (hstep r t x h hx) hrest

theorem walk_valid (h : walk db p = some r) : r.Valid db :=
  tokens_invariant (fun _ _ _ => resolveToken_valid) (fun o ho => by cases ho) h

theorem resolveToken_current (h : r.Current db) (hr : resolveToken db r t = some r') :
    r'.Current db := by
  intro hne
  rcases resolveToken_cases hr with ⟨-, rfl⟩ | ⟨-, -, -, hfind, -⟩
  · exact h hne
  · exact hfind

theorem walk_current (h : walk db p = some r) : r.Current db :=
  tokens_invariant (fun _ _ _ => resolveToken_current) (fun hne => absurd rfl hne) h

theorem walk_append (p q : Bytes) :
    walk db (p ++ dot :: q) = (walk db p).bind fun r => (tokens q).foldlM (resolveToken db) r := by
  rw [walk, tokens_append, List.foldlM_append]
  rfl

theorem getProviderByObjectName_walk (hp : p ≠ []) :
    getProviderByObjectName db p false = outcome (walk db p) := getProviderByObjectName_eq hp

theorem outcome_some (h : outcome (walk db p) = (some o, b)) :
    ∃ r, walk db p = some r ∧ r.provider = some o ∧ r.isListItem = b ∧ r.fullName = o.objectName ∧
      o ∈ db.objects ∧ r.isList = (o.isList && !b) := by
  cases hr : walk db p with
  | none =>
    rw [hr] at h
    cases h
  | some r =>
    rw [hr] at h
    obtain ⟨ho, hb⟩ := Prod.mk.inj h
    obtain ⟨hfind, hflag⟩ := walk_valid hr o ho
    exact ⟨r, rfl, ho, hb, (ModelDb.find_name hfind).symm, ModelDb.find_mem hfind, hb ▸ hflag⟩

/-- Behind a list without an instance, a token more names one. -/
theorem walk_instance (h : outcome (walk db p) = (some o, false)) (hl : o.isList = true)
    (ht : dot ∉ t) : outcome (walk db (p ++ dot :: t)) = (some o, true) := by
  obtain ⟨r, hr, ho, _, _, _, hflag⟩ := outcome_some h
  have htoken : resolveToken db r t = some { r with isList := false, isListItem := true } :=
    resolveToken_instance (by rw [hflag, hl]; rfl)
  rw [walk_append, hr, tokens_of_not_mem ht]
  simp only [Option.bind_some, List.foldlM_cons, htoken, List.foldlM_nil, bind, pure, outcome, ho]

end Walking

/-! A list in a list. -/

def endPointInfo : DmProviderInfo where
  objectName := ascii "WiFi.EndPoint"
  providerName := ascii "wifi"
  isList := true
  properties := []
  fullNames := by decide

def adapterInfo : DmProviderInfo :=
  { endPointInfo with objectName := ascii "WiFi.EndPoint.Adapter", fullNames := by decide }

def wifiDb : ModelDb := ⟨[endPointInfo, adapterInfo], by decide⟩

theorem resolves_iff_instancePath_example :
    (∀ R b, getProviderByObjectName wifiDb (ascii "WiFi.EndPoint.1.Adapter") true = (some R, b) ↔
      InstancePath wifiDb (ascii "WiFi.EndPoint.1.Adapter") R b) ∧
    ((¬ ∃ R b, InstancePath wifiDb (ascii "WiFi.EndPoint.1.Adapter") R b) →
      (getProviderByObjectName wifiDb (ascii "WiFi.EndPoint.1.Adapter") true).1 = none) :=
  resolves_iff_instancePath (by decide) (by decide) true

end RtMessage.DataProvider
