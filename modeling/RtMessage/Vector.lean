import Mathlib.Data.List.Basic
import RtMessage.Base
import RtMessage.Lib.DataRefinement

/- `rtVector`, a vector of pointers in a block that grows by 16 slots.

   An access outside the block is a fault. The block has one slot more than there are items
   (`Holds`), so the shift of `rtVector_RemoveItem`, which reads the slot behind the last
   item, stays in it.

   1. What each call does to a vector that holds a list (`pushBack_holds`, `removeItem_holds`,
      `at_holds`).
   2. A vector refines the list (`vector_refines_list`).
   3. Removing an item that is not there takes the last one (`removeItem_absent`), and so it
      never leaves the vector as it was (`absent_removal_changes`). -/
namespace RtMessage
open Lib

/-! The code. -/

/-- `calloc` and `realloc` give a block of that many bytes or a null pointer. No block is larger
    than half of the address space. -/
structure Allocator where
  grants : Nat → Bool
  limit : ∀ bytes, grants bytes = true → bytes < 2^63

/-- A slot of a block: a pointer, or what was in memory before. -/
abbrev Slot := Option Nat

def NULL : Nat := 0

/-- `calloc(slots, sizeof(void*))`. -/
def Allocator.calloc (A : Allocator) (slots : Nat) : Option (List Slot) :=
  if A.grants (slots * 8) then some (List.replicate slots (some NULL)) else none

def Allocator.realloc (A : Allocator) (block : List Slot) (bytes : Nat) : Option (List Slot) :=
  if A.grants bytes then
    some (block.take (bytes / 8) ++ List.replicate (bytes / 8 - block.length) none)
  else none

def RTVECT_BLOCKSIZE : Nat := 16

/-- The struct behind an `rtVector`; `capacity` and `count` are of type `size_t`. -/
structure RtVector where
  data : Option (List Slot)
  capacity : Nat
  count : Nat
  deriving DecidableEq, Repr

def rtVectorCreate : RtVector := ⟨none, 0, 0⟩

namespace RtVector

/-- `v->data[i]`. -/
def load (v : RtVector) (i : Nat) : Except Fault Slot :=
  match v.data.bind (·[i]?) with
  | some slot => .ok slot
  | none => .error .undefinedBehaviour

/-- `v->data[i]`, where the pointer itself is looked at. -/
def item (v : RtVector) (i : Nat) : Except Fault Nat := do
  match ← v.load i with
  | some p => return p
  | none => .error .undefinedBehaviour

/-- `v->data[i] = slot`. -/
def store (v : RtVector) (i : Nat) (slot : Slot) : Except Fault RtVector :=
  match v.data with
  | some block =>
    if i < block.length then .ok { v with data := some (block.set i slot) }
    else .error .undefinedBehaviour
  | none => .error .undefinedBehaviour

/-- The first loop of `rtVector_RemoveItem`, with `left` more turns to take: where it stops. -/
def search (v : RtVector) (x : Nat) : Nat → Nat → Except Fault Nat
  | 0, i => .ok i
  | left+1, i => do
    if (← v.item i) = x then return i else v.search x left (i+1)

/-- The items the destroyer is called with, if there is one, where the search has stopped. -/
def destroyAt (v : RtVector) (i : Nat) : Bool → Except Fault (List Nat)
  | true => if i < v.count then (v.item i).map ([·]) else .ok []
  | false => .ok []

/-- The loop that moves the items behind index `i` to the front. -/
def shift : Nat → Nat → RtVector → Except Fault RtVector
  | 0, _, v => .ok v
  | left+1, i, v => do
    let slot ← v.load (i+1)
    let v ← v.store i slot
    shift left (i+1) v

/-- The loop that clears the slots from index `i` on. -/
def clear : Nat → Nat → RtVector → Except Fault RtVector
  | 0, _, v => .ok v
  | left+1, i, v => do
    let v ← v.store i (some NULL)
    clear left (i+1) v

end RtVector

/-- The block with room for another item and one more, if the allocator gives it. -/
def RtVector.grown (A : Allocator) (v : RtVector) : RtVector :=
  match v.data with
  | none => { v with data := A.calloc RTVECT_BLOCKSIZE, capacity := RTVECT_BLOCKSIZE }
  | some block =>
    if v.capacity ≤ (v.count + 1) % 2^64 then
      let capacity := (v.capacity + RTVECT_BLOCKSIZE) % 2^64
      { v with data := A.realloc block (capacity * 8 % 2^64), capacity }
    else v

/-- The bytes `rtVector_PushBack` asks the allocator for, if it asks. -/
def RtVector.asks (v : RtVector) : Option Nat :=
  match v.data with
  | none => some (RTVECT_BLOCKSIZE * 8)
  | some _ =>
    if v.capacity ≤ (v.count + 1) % 2^64 then
      some ((v.capacity + RTVECT_BLOCKSIZE) % 2^64 * 8 % 2^64)
    else none

/-- The allocation that a `rtVector_PushBack` makes, if any, succeeds. -/
def Allocator.Provides (A : Allocator) (v : RtVector) : Prop :=
  ∀ bytes, v.asks = some bytes → A.grants bytes = true

def rtVectorPushBack (A : Allocator) (v : RtVector) (x : Nat) : Except Fault (RtError × RtVector) :=
  let v := v.grown A
  match v.data with
  | none => .ok (rtErrorFromErrno .ENOMEM, v)
  | some _ => do
    let v ← v.store v.count (some x)
    return (.ok, { v with count := (v.count + 1) % 2^64 })

/-- The items the destroyer is called with and the vector afterwards. The three loops share their
    index, so the last one begins where the second has ended. -/
def rtVectorRemoveItem (v : RtVector) (x : Nat) (destroyer : Bool) :
    Except Fault (List Nat × RtVector) := do
  let i ← v.search x v.count 0
  let destroyed ← v.destroyAt i destroyer
  let shifted ← RtVector.shift (v.count - i) i v
  let v' ← RtVector.clear (v.capacity - v.count) v.count
    { shifted with count := (v.count + (2^64 - 1)) % 2^64 }
  return (destroyed, v')

def rtVectorAt (v : RtVector) (index : Nat) : Except Fault Nat :=
  if v.count ≤ index then .ok NULL else v.item index

def rtVectorSize (v : RtVector) : Nat := v.count

/-! The list a vector holds. -/

/-- Before the first item there is no block. Afterwards the items are in front in it, and at least
    one slot is left. -/
inductive RtVector.Holds : RtVector → List Nat → Prop where
  | empty : Holds ⟨none, 0, 0⟩ []
  | block {xs : List Nat} {rest : List Slot} (hroom : 0 < rest.length)
      (hsize : 8 * (xs.length + rest.length) < 2^63) :
      Holds ⟨some (xs.map some ++ rest), xs.length + rest.length, xs.length⟩ xs

namespace RtVector
variable {pre post old : List Slot} {slot : Slot} {capacity count : Nat}

@[simp] theorem load_append :
    load ⟨some (pre ++ slot :: post), capacity, count⟩ pre.length = .ok slot := by
  simp [load]

@[simp] theorem item_append {x : Nat} :
    item ⟨some (pre ++ some x :: post), capacity, count⟩ pre.length = .ok x := by
  rw [item, load_append]
  simp only [ok_bind, pure_eq_ok]

@[simp] theorem store_append (new : Slot) :
    store ⟨some (pre ++ slot :: post), capacity, count⟩ pre.length new =
      .ok ⟨some (pre ++ new :: post), capacity, count⟩ := by
  simp [store]

theorem search_eq (x : Nat) (xs front : List Nat) :
    search ⟨some ((front ++ xs).map some ++ post), capacity, count⟩ x xs.length front.length =
      .ok (front.length + xs.idxOf x) := by
  induction xs generalizing front with
  | nil => rfl
  | cons p xs ih =>
    have hitem : item ⟨some ((front ++ p :: xs).map some ++ post), capacity, count⟩ front.length =
        .ok p := by
      have h := @item_append (front.map some) (xs.map some ++ post) capacity count p
      simpa using h
    rw [List.length_cons, search, hitem, ok_bind]
    by_cases hp : p = x
    · subst hp
      simp
    · have h := ih (front ++ [p])
      rw [List.append_assoc, List.singleton_append, List.length_append] at h
      rw [if_neg hp, List.idxOf_cons_ne _ hp]
      refine h.trans ?_
      simp
      omega

/-- The moves, from a slot that is overwritten on: the slot behind the last item moved is there
    twice. -/
theorem shift_eq (moved : List Slot) (pre : List Slot) (last : Slot) :
    shift (moved.length + 1) pre.length
      ⟨some (pre ++ slot :: (moved ++ last :: post)), capacity, count⟩ =
        .ok ⟨some (pre ++ (moved ++ last :: last :: post)), capacity, count⟩ := by
  induction moved generalizing pre slot with
  | nil =>
    have hload : load ⟨some (pre ++ slot :: last :: post), capacity, count⟩ (pre.length + 1) =
        .ok last := by
      have h := @load_append (pre ++ [slot]) post last capacity count
      simpa using h
    simp [shift, hload]
  | cons m moved ih =>
    have hload : load ⟨some (pre ++ slot :: m :: (moved ++ last :: post)), capacity, count⟩
        (pre.length + 1) = .ok m := by
      have h := @load_append (pre ++ [slot]) (moved ++ last :: post) m capacity count
      simpa using h
    have h := @ih m (pre ++ [m])
    rw [List.length_append, List.length_singleton] at h
    rw [List.length_cons, shift, List.cons_append, hload, ok_bind, store_append, ok_bind]
    simpa using h

theorem clear_eq (pre old : List Slot) :
    clear old.length pre.length ⟨some (pre ++ old), capacity, count⟩ =
      .ok ⟨some (pre ++ List.replicate old.length (some NULL)), capacity, count⟩ := by
  induction old generalizing pre with
  | nil => rfl
  | cons s old ih =>
    have h := ih (pre ++ [some NULL])
    rw [List.length_append, List.length_singleton] at h
    rw [List.length_cons, clear, store_append, ok_bind, List.replicate_succ]
    simpa using h

end RtVector

/-! What the calls do to it. -/

section Calls
variable {A : Allocator} {v : RtVector} {xs : List Nat} {x : Nat}

theorem RtVector.Holds.count (h : v.Holds xs) : v.count = xs.length := by
  cases h <;> rfl

theorem RtVector.Holds.of_block {block rest : List Slot} {capacity count : Nat}
    (hblock : block = xs.map some ++ rest) (hroom : 0 < rest.length)
    (hcapacity : capacity = xs.length + rest.length) (hcount : count = xs.length)
    (hsize : 8 * capacity < 2^63) : Holds ⟨some block, capacity, count⟩ xs := by
  subst hblock hcapacity hcount
  exact .block hroom hsize

theorem size_holds (h : v.Holds xs) : rtVectorSize v = xs.length := h.count

theorem at_holds (h : v.Holds xs) (i : Nat) : rtVectorAt v i = .ok (xs[i]?.getD NULL) := by
  rw [rtVectorAt, h.count]
  by_cases hi : xs.length ≤ i
  · rw [if_pos hi, List.getElem?_eq_none hi]
    rfl
  · rw [if_neg hi]
    cases h with
    | empty => exact absurd (Nat.zero_le i) hi
    | @block _ rest _ _ =>
      obtain ⟨p, hp⟩ : ∃ p, xs[i]? = some p := ⟨xs[i], List.getElem?_eq_getElem (by omega)⟩
      have hslot : (xs.map some ++ rest)[i]? = some (some p) := by
        rw [List.getElem?_append_left (by simpa using hi), List.getElem?_map, hp]
        rfl
      simp [RtVector.item, RtVector.load, hslot, hp]

theorem realloc_grown {block : List Slot} {slots : Nat} (hle : block.length ≤ slots)
    (hgrants : A.grants (slots * 8) = true) :
    A.realloc block (slots * 8) = some (block ++ List.replicate (slots - block.length) none) := by
  rw [Allocator.realloc, if_pos hgrants, Nat.mul_div_cancel _ (by decide),
    List.take_of_length_le hle]

/-- The block has room for another item, unless the allocation failed. -/
theorem grown_holds (h : v.Holds xs) : ¬ A.Provides v ∧ (v.grown A).data = none ∨
    ∃ slot rest, 0 < rest.length ∧ 8 * (xs.length + (rest.length + 1)) < 2^63 ∧
      v.grown A = ⟨some (xs.map some ++ slot :: rest), xs.length + (rest.length + 1), xs.length⟩ := by
  cases h with
  | empty =>
    by_cases hgrants : A.grants (RTVECT_BLOCKSIZE * 8) = true
    · right
      refine ⟨some NULL, List.replicate 15 (some NULL), by simp, by simp, ?_⟩
      simp only [RtVector.grown, Allocator.calloc, if_pos hgrants]
      rfl
    · left
      refine ⟨fun hprovides => hgrants (hprovides _ rfl), ?_⟩
      simp only [RtVector.grown, Allocator.calloc, if_neg hgrants]
  | @block _ rest hroom hsize =>
    obtain ⟨slot, rest, rfl⟩ := List.exists_cons_of_length_pos hroom
    rw [List.length_cons] at hsize
    have hcount : (xs.length + 1) % 2^64 = xs.length + 1 := by omega
    simp only [RtVector.grown, hcount, List.length_cons, RTVECT_BLOCKSIZE]
    by_cases hfull : xs.length + (rest.length + 1) ≤ xs.length + 1
    · have hcapacity : (xs.length + (rest.length + 1) + 16) % 2^64 =
          xs.length + (rest.length + 1) + 16 := by omega
      have hbytes : (xs.length + (rest.length + 1) + 16) * 8 % 2^64 =
          (xs.length + (rest.length + 1) + 16) * 8 := by omega
      have hlength : (xs.map some ++ slot :: rest).length = xs.length + (rest.length + 1) := by simp
      rw [if_pos hfull, hcapacity, hbytes]
      by_cases hgrants : A.grants ((xs.length + (rest.length + 1) + 16) * 8) = true
      · right
        have hlimit := A.limit _ hgrants
        have hslots : xs.length + (rest.length + 1) + 16 = xs.length + (rest.length + 16 + 1) := by
          omega
        rw [realloc_grown (by omega) hgrants, hlength, Nat.add_sub_cancel_left, List.append_assoc,
          List.cons_append, hslots]
        refine ⟨slot, rest ++ List.replicate 16 none, by simp, ?_, ?_⟩
        · rw [List.length_append, List.length_replicate, ← hslots, Nat.mul_comm]
          exact hlimit
        · rw [List.length_append, List.length_replicate]
      · left
        refine ⟨fun hprovides => hgrants (hprovides _ ?_), by rw [Allocator.realloc, if_neg hgrants]⟩
        simp only [RtVector.asks, hcount, RTVECT_BLOCKSIZE, if_pos hfull, hcapacity, hbytes]
    · right
      rw [if_neg hfull]
      exact ⟨slot, rest, by omega, hsize, rfl⟩

/-- **`rtVector_PushBack`** adds the item at the end, if it gets the block it asks for. -/
theorem pushBack_holds (h : v.Holds xs) (x : Nat) :
    (¬ A.Provides v ∧ ∃ v', rtVectorPushBack A v x = .ok (rtErrorFromErrno .ENOMEM, v')) ∨
      ∃ v', rtVectorPushBack A v x = .ok (.ok, v') ∧ v'.Holds (xs ++ [x]) := by
  rw [rtVectorPushBack]
  rcases @grown_holds A v xs h with ⟨hfails, hnone⟩ | ⟨slot, rest, hroom, hsize, hgrown⟩
  · left
    simp only [hnone]
    exact ⟨hfails, _, rfl⟩
  · right
    have hstore := @RtVector.store_append (xs.map some) rest slot (xs.length + (rest.length + 1))
      xs.length (some x)
    rw [List.length_map] at hstore
    simp only [hgrown, hstore, ok_bind, pure_eq_ok]
    refine ⟨_, rfl, ?_⟩
    have hlength : (xs ++ [x]).length = xs.length + 1 := by
      rw [List.length_append, List.length_singleton]
    exact .of_block (by simp) hroom (by omega) (by omega) hsize

/-- The search stops at the first occurrence, or behind the last item. -/
theorem search_holds (h : v.Holds xs) (x : Nat) : v.search x v.count 0 = .ok (xs.idxOf x) := by
  cases h with
  | empty => rfl
  | @block _ rest _ _ =>
    have h := @RtVector.search_eq rest (xs.length + rest.length) xs.length x xs []
    simpa using h

/-- The call from its search to its end: the block in front of index `count` is `kept`
    afterwards. -/
theorem removeItem_eq {block : List Slot} {capacity count i : Nat} {destroyed : List Nat}
    {destroyer : Bool} (kept old : List Slot)
    (hsearch : RtVector.search ⟨some block, capacity, count⟩ x count 0 = .ok i)
    (hdestroyed : RtVector.destroyAt ⟨some block, capacity, count⟩ i destroyer = .ok destroyed)
    (hshift : RtVector.shift (count - i) i ⟨some block, capacity, count⟩ =
      .ok ⟨some (kept ++ old), capacity, count⟩)
    (hcount : kept.length = count) (hcapacity : capacity = count + old.length) :
    rtVectorRemoveItem ⟨some block, capacity, count⟩ x destroyer =
      .ok (destroyed, ⟨some (kept ++ List.replicate old.length (some NULL)), capacity,
        (count + (2^64 - 1)) % 2^64⟩) := by
  have hclear := @RtVector.clear_eq capacity ((count + (2^64 - 1)) % 2^64) kept old
  have hleft : capacity - count = old.length := by omega
  rw [hcount] at hclear
  simp only [rtVectorRemoveItem, hsearch, ok_bind, hdestroyed, hshift, hleft, hclear, pure_eq_ok]

/-- **`rtVector_RemoveItem`** of an item that is in the vector. -/
theorem removeItem_holds (h : v.Holds xs) (hx : x ∈ xs) (destroyer : Bool) :
    ∃ v', rtVectorRemoveItem v x destroyer = .ok (if destroyer then [x] else [], v') ∧
      v'.Holds (xs.erase x) := by
  have hsearch := search_holds h x
  cases h with
  | empty => cases hx
  | @block _ rest hroom hsize =>
    obtain ⟨front, back, rfl, hfront⟩ := List.eq_append_cons_of_mem hx
    obtain ⟨slot, rest, rfl⟩ := List.exists_cons_of_length_pos hroom
    have hindex : (front ++ x :: back).idxOf x = front.length := by
      rw [List.idxOf_append_of_notMem hfront, List.idxOf_cons_self, Nat.add_zero]
    have herase : (front ++ x :: back).erase x = front ++ back := by
      rw [List.erase_append_right _ hfront, List.erase_cons_head]
    have hcount : (front ++ x :: back).length = (front ++ back).length + 1 := by
      simp only [List.length_append, List.length_cons]
      omega
    -- the block: what is in front of the item, the item, what is behind it, and a free slot
    have hblock : (front ++ x :: back).map some ++ slot :: rest =
        front.map some ++ some x :: (back.map some ++ slot :: rest) := by simp
    rw [hindex] at hsearch
    rw [herase]
    simp only [hcount, hblock] at hsearch hsize ⊢
    refine ⟨_, removeItem_eq ((front ++ back).map some ++ [slot]) (slot :: rest) hsearch
      ?_ ?_ ?_ rfl, ?_⟩
    · cases destroyer with
      | false => rfl
      | true =>
        have hitem := @RtVector.item_append (front.map some) (back.map some ++ slot :: rest)
          ((front ++ back).length + 1 + (slot :: rest).length) ((front ++ back).length + 1) x
        have hbefore : front.length < (front ++ back).length + 1 := by
          rw [List.length_append]
          omega
        rw [List.length_map] at hitem
        rw [RtVector.destroyAt, if_pos hbefore, hitem]
        rfl
    · -- the shift reads as far as the free slot
      have hshift := @RtVector.shift_eq rest (some x)
        ((front ++ back).length + 1 + (slot :: rest).length) ((front ++ back).length + 1)
        (back.map some) (front.map some) slot
      have hleft : (front ++ back).length + 1 - front.length = (back.map some).length + 1 := by
        rw [List.length_append, List.length_map]
        omega
      have hfront : (front.map some).length = front.length := List.length_map some
      rw [hfront] at hshift
      rw [hleft, hshift]
      simp
    · simp
      omega
    · rw [List.append_assoc]
      exact .of_block rfl (by simp) (by simp; omega) (by omega) hsize

/-- An item that is not there: the search stops behind the last item, nothing is moved, and the
    last item is no longer counted. -/
theorem removeItem_absent (h : v.Holds xs) (hx : x ∉ xs) (destroyer : Bool) :
    ∃ v', rtVectorRemoveItem v x destroyer = .ok ([], v') ∧
      (xs = [] → v'.count = 2^64 - 1) ∧ (xs ≠ [] → v'.Holds xs.dropLast) := by
  have hsearch := search_holds h x
  rw [List.idxOf_of_notMem hx] at hsearch
  cases h with
  | empty =>
    cases destroyer with
    | false => exact ⟨_, rfl, fun _ => rfl, fun hne => absurd rfl hne⟩
    | true => exact ⟨_, rfl, fun _ => rfl, fun hne => absurd rfl hne⟩
  | @block _ rest hroom hsize =>
    have hdestroyed : RtVector.destroyAt ⟨some (xs.map some ++ rest), xs.length + rest.length, xs.length⟩
        xs.length destroyer = .ok [] := by
      cases destroyer with
      | false => rfl
      | true => exact if_neg (Nat.lt_irrefl _)
    refine ⟨_, removeItem_eq (xs.map some) rest hsearch hdestroyed ?_ (List.length_map some) rfl,
      ?_, ?_⟩
    · rw [Nat.sub_self]
      rfl
    · intro hnil
      subst hnil
      rfl
    · intro hne
      have hlength : xs.dropLast.length + 1 = xs.length := by
        have := List.length_pos_of_ne_nil hne
        rw [List.length_dropLast]
        omega
      have hblock : xs.map some ++ List.replicate rest.length (some NULL) =
          xs.dropLast.map some ++ some (xs.getLast hne) :: List.replicate rest.length (some NULL) := by
        conv_lhs => rw [← List.dropLast_append_getLast hne]
        simp
      exact .of_block hblock (by simp) (by simp; omega) (by omega) hsize

end Calls

/-! Sequences of calls. -/

inductive VectorCall where
  | pushBack (x : Nat)
  | removeItem (x : Nat) (destroyer : Bool)

namespace VectorCall

/-- The vector after the call. -/
def run (A : Allocator) (v : RtVector) : VectorCall → Except Fault RtVector
  | .pushBack x => (rtVectorPushBack A v x).map (·.2)
  | .removeItem x destroyer => (rtVectorRemoveItem v x destroyer).map (·.2)

/-- What the call is for: an item is appended, or its first occurrence erased. -/
def spec (xs : List Nat) : VectorCall → List Nat
  | .pushBack x => xs ++ [x]
  | .removeItem x _ => xs.erase x

/-- Allocation succeeds, and an item that is to be removed is in the vector. -/
def Proper (A : Allocator) (v : RtVector) (xs : List Nat) : VectorCall → Prop
  | .pushBack _ => A.Provides v
  | .removeItem x _ => x ∈ xs

theorem run_holds {A : Allocator} (v : RtVector) (xs : List Nat) (call : VectorCall)
    (h : v.Holds xs) (hproper : call.Proper A v xs) :
    ∃ v', call.run A v = .ok v' ∧ v'.Holds (call.spec xs) := by
  cases call with
  | pushBack x =>
    rcases @pushBack_holds A v xs h x with ⟨hfails, -⟩ | ⟨v', hv', hholds⟩
    · exact absurd hproper hfails
    · exact ⟨v', by rw [run, hv']; rfl, hholds⟩
  | removeItem x destroyer =>
    obtain ⟨v', hv', hholds⟩ := removeItem_holds h hproper destroyer
    exact ⟨v', by rw [run, hv']; rfl, hholds⟩

end VectorCall

theorem RtVector.Holds.room {v : RtVector} {xs : List Nat} (h : v.Holds xs) :
    ∀ block, v.data = some block → v.count < v.capacity ∧ block.length = v.capacity := by
  intro block hblock
  cases h with
  | empty => cases hblock
  | block hroom _ =>
    cases hblock
    exact ⟨by dsimp only; omega, by simp⟩

/-- **`rtVector` refines a list.** The calls return, so that no access lies outside the block,
    which has `capacity` slots. -/
theorem vector_refines_list (A : Allocator) (calls : List VectorCall)
    (hcalls : Legal (VectorCall.run A) VectorCall.spec (VectorCall.Proper A) rtVectorCreate [] calls) :
    ∃ v, calls.foldlM (VectorCall.run A) rtVectorCreate = .ok v ∧
      rtVectorSize v = (calls.foldl VectorCall.spec []).length ∧
      (∀ i, rtVectorAt v i = .ok ((calls.foldl VectorCall.spec [])[i]?.getD NULL)) ∧
      ∀ block, v.data = some block → v.count < v.capacity ∧ block.length = v.capacity := by
  obtain ⟨v, hrun, hholds⟩ := run_of_legal VectorCall.run_holds RtVector.Holds.empty hcalls
  exact ⟨v, hrun, size_holds hholds, at_holds hholds, hholds.room⟩

/-- An allocator that gives every block it can. -/
def largestAllocator : Allocator := ⟨fun bytes => decide (bytes < 2^63), fun _ => of_decide_eq_true⟩

theorem RtVector.Holds.asks_le {v : RtVector} {xs : List Nat} (h : v.Holds xs) {bytes : Nat}
    (hasks : v.asks = some bytes) : bytes ≤ (xs.length + 17) * 8 := by
  cases h with
  | empty =>
    cases hasks
    decide
  | @block _ rest hroom hsize =>
    have hcount : (xs.length + 1) % 2^64 = xs.length + 1 := by omega
    simp only [asks, hcount, RTVECT_BLOCKSIZE] at hasks
    by_cases hfull : xs.length + rest.length ≤ xs.length + 1
    · rw [if_pos hfull] at hasks
      cases hasks
      omega
    · rw [if_neg hfull] at hasks
      cases hasks

/-- The items to be removed are in the list. -/
def VectorCall.Erases : List Nat → List VectorCall → Prop
  | _, [] => True
  | xs, .pushBack x :: calls => Erases (xs ++ [x]) calls
  | xs, .removeItem x _ :: calls => x ∈ xs ∧ Erases (xs.erase x) calls

theorem legal_of_erases (calls : List VectorCall) {v : RtVector} {xs : List Nat} (h : v.Holds xs)
    (hfit : xs.length + calls.length + 17 < 2^60) (herases : VectorCall.Erases xs calls) :
    Legal (VectorCall.run largestAllocator) VectorCall.spec (VectorCall.Proper largestAllocator) v xs
      calls := by
  induction calls generalizing v xs with
  | nil => trivial
  | cons call calls ih =>
    rw [List.length_cons] at hfit
    have hnext : ∀ ys : List Nat, ys.length ≤ xs.length + 1 →
        ys.length + calls.length + 17 < 2^60 := by
      intro ys hys
      omega
    have hproper : call.Proper largestAllocator v xs := by
      cases call with
      | pushBack x =>
        intro bytes hasks
        have hle := h.asks_le hasks
        have hlt : bytes < 2^63 := by omega
        exact decide_eq_true hlt
      | removeItem x destroyer => exact herases.1
    refine ⟨hproper, fun v' hrun => ?_⟩
    obtain ⟨u, hu, hholds⟩ := VectorCall.run_holds v xs call h hproper
    cases hu.symm.trans hrun
    cases call with
    | pushBack x =>
      exact ih hholds (hnext (xs ++ [x]) (by simp)) herases
    | removeItem x destroyer =>
      have hlen : (xs.erase x).length ≤ xs.length := List.length_erase_le
      exact ih hholds (hnext (xs.erase x) (Nat.le_succ_of_le hlen)) herases.2

/-- Twenty items, so that the vector grows once, and two removals. -/
def exampleCalls : List VectorCall :=
  (List.range' 1 20).map .pushBack ++ [.removeItem 1 false, .removeItem 17 true]

theorem vector_refines_list_example :
    ∃ v, exampleCalls.foldlM (VectorCall.run largestAllocator) rtVectorCreate = .ok v ∧
      rtVectorSize v = 18 ∧ rtVectorAt v 0 = .ok 2 ∧ rtVectorAt v 15 = .ok 18 ∧
      ∀ block, v.data = some block → v.count < v.capacity ∧ block.length = v.capacity := by
  have hcalls := legal_of_erases exampleCalls .empty (by decide) (by
    simp [exampleCalls, VectorCall.Erases, List.range'])
  obtain ⟨v, hrun, hsize, hat, hroom⟩ := vector_refines_list largestAllocator _ hcalls
  exact ⟨v, hrun, hsize, hat 0, hat 15, hroom⟩

/-! Removing an item that is not there. -/

/-- The call does nothing. -/
def LeavesUnchanged (v : RtVector) (x : Nat) (destroyer : Bool) : Prop :=
  ∃ v', rtVectorRemoveItem v x destroyer = .ok ([], v') ∧ rtVectorSize v' = rtVectorSize v ∧
    ∀ i, rtVectorAt v' i = rtVectorAt v i

theorem search_cases {v : RtVector} {x : Nat} (left : Nat) {i j : Nat}
    (h : v.search x left i = .ok j) : j = i + left ∨ j < i + left ∧ v.item j = .ok x := by
  induction left generalizing i with
  | zero =>
    cases h
    exact .inl rfl
  | succ left ih =>
    rw [RtVector.search] at h
    obtain ⟨p, hp, h⟩ := bind_eq_ok.mp h
    by_cases hx : p = x
    · rw [if_pos hx, pure_eq_ok] at h
      cases h
      exact .inr ⟨by omega, hx ▸ hp⟩
    · rw [if_neg hx] at h
      rcases ih h with hend | ⟨hlt, hj⟩
      · exact .inl (by omega)
      · exact .inr ⟨by omega, hj⟩

theorem store_count {v v' : RtVector} {i : Nat} {slot : Slot} (h : v.store i slot = .ok v') :
    v'.count = v.count := by
  unfold RtVector.store at h
  split at h
  · split at h
    · cases h
      rfl
    · cases h
  · cases h

theorem clear_count {v v' : RtVector} (left : Nat) {i : Nat} (h : RtVector.clear left i v = .ok v') :
    v'.count = v.count := by
  induction left generalizing i v with
  | zero =>
    cases h
    rfl
  | succ left ih =>
    rw [RtVector.clear] at h
    obtain ⟨u, hu, h⟩ := bind_eq_ok.mp h
    exact (ih h).trans (store_count hu)

/-- **An absent item** is not destroyed, and the count goes down all the same, below zero too. So
    the call never does nothing. -/
theorem absent_removal_changes (v : RtVector) (x : Nat) (destroyer : Bool)
    (habsent : ∀ i < rtVectorSize v, rtVectorAt v i ≠ .ok x) :
    (∀ destroyed v', rtVectorRemoveItem v x destroyer = .ok (destroyed, v') →
      destroyed = [] ∧ rtVectorSize v' = (rtVectorSize v + (2^64 - 1)) % 2^64) ∧
    ¬ LeavesUnchanged v x destroyer := by
  have hall : ∀ destroyed v', rtVectorRemoveItem v x destroyer = .ok (destroyed, v') →
      destroyed = [] ∧ rtVectorSize v' = (rtVectorSize v + (2^64 - 1)) % 2^64 := by
    intro destroyed v' h
    rw [rtVectorRemoveItem] at h
    obtain ⟨i, hi, h⟩ := bind_eq_ok.mp h
    obtain ⟨ds, hds, h⟩ := bind_eq_ok.mp h
    obtain ⟨shifted, -, h⟩ := bind_eq_ok.mp h
    obtain ⟨cleared, hclear, h⟩ := bind_eq_ok.mp h
    rw [pure_eq_ok] at h
    cases h
    have hcount := clear_count _ hclear
    dsimp only at hcount
    refine ⟨?_, by rw [rtVectorSize, rtVectorSize, hcount]⟩
    have hend : i = v.count := by
      rcases search_cases v.count hi with hend | ⟨hlt, hitem⟩
      · omega
      · rw [Nat.zero_add] at hlt
        have hat : rtVectorAt v i = .ok x := by rw [rtVectorAt, if_neg (by omega), hitem]
        exact absurd hat (habsent i hlt)
    subst hend
    cases destroyer with
    | false => exact (Except.ok.inj hds).symm
    | true =>
      rw [RtVector.destroyAt, if_neg (Nat.lt_irrefl _)] at hds
      exact (Except.ok.inj hds).symm
  refine ⟨hall, ?_⟩
  rintro ⟨v', hrun, hsize, -⟩
  have hless := (hall [] v' hrun).2
  rw [hsize] at hless
  omega

/-- A vector that holds the item 7. -/
def vectorOfOne : RtVector := ⟨some (some 7 :: List.replicate 15 (some NULL)), 16, 1⟩

theorem absent_removal_changes_example : ¬ LeavesUnchanged vectorOfOne 8 true :=
  (absent_removal_changes vectorOfOne 8 true (by decide)).2

/-- It loses this item when another is removed. -/
theorem absent_item_removed : ¬ ∀ (A : Allocator) (calls : List VectorCall) (v : RtVector) (x : Nat),
    calls.foldlM (VectorCall.run A) rtVectorCreate = .ok v →
      (∀ i < rtVectorSize v, rtVectorAt v i ≠ .ok x) → LeavesUnchanged v x false := by
  intro hclaim
  obtain ⟨v', hrun, hsize, -⟩ :=
    hclaim largestAllocator [.pushBack 7] vectorOfOne 8 rfl (by decide)
  have hempty : rtVectorRemoveItem vectorOfOne 8 false = .ok ([], { vectorOfOne with count := 0 }) := rfl
  cases hempty.symm.trans hrun
  cases hsize

end RtMessage
