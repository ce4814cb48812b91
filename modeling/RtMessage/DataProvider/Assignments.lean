import Mathlib.Data.List.Basic
import RtMessage.DataProvider.AccessControl

/- What becomes of the assignments of a set request: a single value is one assignment to the
   name behind the last dot of the target, a value `{n1=v1,...,nk=vk}` is `k` assignments in
   the object that the target is. The host takes every value in braces for one of the second
   kind (`MisreadSingle`). -/
namespace RtMessage.DataProvider

/-! The assignments of a request. -/

/-- The value `{n1=v1,...,nk=vk}`. -/
def multiset (assignments : List (Bytes × Bytes)) : Bytes :=
  openBrace :: ([comma].intercalate (assignments.map fun a => a.1 ++ equals :: a.2) ++ [closeBrace])

def Braced (value : Bytes) : Prop := ∃ body, value = openBrace :: (body ++ [closeBrace])

/-- The value is the multi-set of these assignments. -/
structure IsMultiset (value : Bytes) (as : List (Bytes × Bytes)) : Prop where
  ne_nil : as ≠ []
  names : ∀ a ∈ as, a.1 ≠ [] ∧ comma ∉ a.1 ∧ equals ∉ a.1
  values : ∀ a ∈ as, comma ∉ a.2
  value_eq : value = multiset as

/-- Setting `target` to `value` means these assignments in the object `o`: a multi-set in the
    object that the target leads to, or else a single value. -/
inductive Assigns (db : ModelDb) (target value : Bytes) (o : DmProviderInfo) :
    List (Bytes × Bytes) → Prop where
  | single (hvalue : ∀ as, IsMultiset value as → db.resolve target = none)
      (ho : namedObject db target = some o) :
      Assigns db target value o [(trimPropertyName target, value)]
  | multi {as : List (Bytes × Bytes)} (hvalue : IsMultiset value as)
      (ho : db.resolve target = some o) : Assigns db target value o as

/-- The assignments of a request that the host reads as it is meant. -/
inductive ReadAs (db : ModelDb) (target value : Bytes) (o : DmProviderInfo) :
    List (Bytes × Bytes) → Prop where
  | single (hvalue : ¬ Braced value) (ho : namedObject db target = some o) :
      ReadAs db target value o [(trimPropertyName target, value)]
  | multi {as : List (Bytes × Bytes)} (hvalue : IsMultiset value as)
      (ho : db.resolve target = some o) : ReadAs db target value o as

/-- A single value that the host takes for a multi-set, as it is in braces. -/
structure MisreadSingle (target value : Bytes) (as : List (Bytes × Bytes)) : Prop where
  braced : Braced value
  single : as = [(trimPropertyName target, value)]

theorem Assigns.cases {db : ModelDb} {target value : Bytes} {o : DmProviderInfo}
    {as : List (Bytes × Bytes)} (h : Assigns db target value o as) :
    ReadAs db target value o as ∨ MisreadSingle target value as := by
  cases h with
  | single hvalue ho =>
    by_cases hbraced : Braced value
    · exact .inr ⟨hbraced, rfl⟩
    · exact .inl (.single hbraced ho)
  | multi hvalue ho => exact .inl (.multi hvalue ho)

/-! What the provider is given. -/

section Given
variable {σ : Type}

/-- The `doSet` of the base class is empty. -/
def DmProvider.OverridesDoSet (p : DmProvider σ) : Prop :=
  p.doSetProperty ≠ fun _ _ _ s => ({}, s)

open scoped Classical in
/-- The name and the value that a call gives to the provider's own code. -/
noncomputable def DmProvider.given (p : DmProvider σ) : ProviderCall → Option (Bytes × DmValue)
  | .setter name value => some (name, value)
  | .doSet info value => if p.OverridesDoSet then some (info.name, value) else none
  | _ => none

/-- The property of an entry about the name `n`: the object's property, or, if it has none, one
    that is shown under the target of the request. -/
def About (o : DmProviderInfo) (target n : Bytes) (info : DmPropertyInfo) : Prop :=
  match o.property? n with
  | some declared => info = declared
  | none => info.fullName = target

/-- There is one entry for each assignment, in order, and it is about that assignment. The
    assignment is given to the provider with its own name and value, and what a setter was given
    is in the entry; or the entry has a status that is not `RT_OK`. -/
inductive AccountedFor (p : DmProvider σ) (o : DmProviderInfo) (target : Bytes) :
    List (Bytes × Bytes) → List Param → List (Bytes × DmValue) → Prop where
  | nil : AccountedFor p o target [] [] []
  | carriedOut {n v : Bytes} {as : List (Bytes × Bytes)} {e : Param} {es : List Param}
      {gs : List (Bytes × DmValue)} (habout : About o target n e.info)
      (hset : (p.setter? n).isSome → e.value = .string v ∧ e.statusCode = rtOk)
      (h : AccountedFor p o target as es gs) :
      AccountedFor p o target ((n, v) :: as) (e :: es) ((n, .string v) :: gs)
  | refused {a : Bytes × Bytes} {as : List (Bytes × Bytes)} {e : Param} {es : List Param}
      {gs : List (Bytes × DmValue)} (habout : About o target a.1 e.info)
      (hstatus : e.statusCode ≠ rtOk) (h : AccountedFor p o target as es gs) :
      AccountedFor p o target (a :: as) (e :: es) gs

theorem AccountedFor.length_eq {o : DmProviderInfo} {target : Bytes} {p : DmProvider σ}
    {as : List (Bytes × Bytes)} {es : List Param} {gs : List (Bytes × DmValue)}
    (h : AccountedFor p o target as es gs) : es.length = as.length := by
  induction h with
  | nil => rfl
  | carriedOut _ _ _ ih => simp only [List.length_cons, ih]
  | refused _ _ _ ih => simp only [List.length_cons, ih]

end Given

/-! The loop of a set. -/

section Loop
variable {σ : Type} {p : DmProvider σ} {s : Provided σ}

end Loop

/-! From the request to the loop. -/

section Decoding
variable {σ : Type} {host : DmProviderHost σ} {p : DmProvider σ} {req : CJson} {o : DmProviderInfo}
  {P target value : Bytes} {as : List (Bytes × Bytes)}

/-- The assignments that are decoded: a single value is one, of a multi-set those whose value
    has no `=`. -/
def decoded (value : Bytes) (as : List (Bytes × Bytes)) : List (Bytes × Bytes) :=
  if value = [] then [] else
    match parseMultisetValue value with
    | some nameVals => nameVals
    | none => as

end Decoding

/-! Which assignments are kept. -/

section Kept
variable {σ : Type} {host : DmProviderHost σ} {p : DmProvider σ} {req : CJson} {o : DmProviderInfo}
  {P target value : Bytes} {as : List (Bytes × Bytes)}

theorem ReadAs.ne_nil {db : ModelDb} (h : ReadAs db target value o as) : as ≠ [] := by
  cases h with
  | single _ _ => exact List.cons_ne_nil _ _
  | multi hmulti _ => exact hmulti.ne_nil

theorem ReadAs.multiset {db : ModelDb} (h : ReadAs db target value o as) (hbraced : Braced value) :
    IsMultiset value as := by
  cases h with
  | single hsingle _ => exact absurd hbraced hsingle
  | multi hmulti _ => exact hmulti

end Kept

/-! A provider that sets `X` in the object `B`. -/

def relayHost : DmProviderHost (Option DmValue) :=
  ((DmProviderHost.create lampDb).registerProvider (ascii "B") lampProvider true).2

end RtMessage.DataProvider
