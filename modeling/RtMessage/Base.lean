import Mathlib.Algebra.Group.Int.Defs
import Mathlib.Algebra.Group.Nat.Defs
import Mathlib.Data.List.TakeWhile

/- The C values the library works on: byte strings, `char` arrays of a fixed
   size, `errno` and `rtError`.

   A run that does not return normally ends in a `Fault`. `undefinedBehaviour`
   stands for every access the C standard gives no meaning to (an index outside
   an array, a null pointer): the model goes no further there, and a theorem
   about a run that returns says nothing about one that reaches it. -/
namespace RtMessage

abbrev Bytes := List UInt8

/-- The bytes of an ASCII literal. -/
def ascii (s : String) : Bytes := s.toList.map fun c => UInt8.ofNat c.toNat

inductive Fault where
  /-- the bound on the steps of a loop or of a recursion was used up -/
  | outOfFuel
  /-- a read waits for bytes that are not there -/
  | blocked
  | abort
  | undefinedBehaviour
  deriving DecidableEq, Repr

-- Proved by `simp` and not by `rfl`: a `rfl` lemma would have the kernel compare the
-- two sides by evaluating the codec.
@[simp] theorem ok_bind {ε α β : Type} (a : α) (f : α → Except ε β) :
    (Except.ok a >>= f) = f a := by simp only [bind, Except.bind]

@[simp] theorem error_bind {ε α β : Type} (e : ε) (f : α → Except ε β) :
    (Except.error e >>= f) = .error e := by simp only [bind, Except.bind]

@[simp] theorem pure_eq_ok {ε α : Type} (a : α) : (pure a : Except ε α) = .ok a := by
  simp only [pure, Except.pure]

theorem bind_eq_ok {ε α β : Type} {x : Except ε α} {f : α → Except ε β} {b : β} :
    (x >>= f) = .ok b ↔ ∃ a, x = .ok a ∧ f a = .ok b := by
  cases x with
  | error e => simp
  | ok a => simp

/-- What is evaluated of a result tells that there is one. -/
theorem ok_of_toOption_map {ε α β : Type} {x : Except ε α} {g : α → β} {b : β}
    (h : x.toOption.map g = some b) : ∃ a, x = .ok a ∧ g a = b := by
  cases x with
  | error e => cases h
  | ok a => exact ⟨a, rfl, Option.some.inj h⟩

/-- The `errno` values the code tells apart, and the others. -/
inductive Errno where
  | EPIPE | ENOTCONN | EBADF | EINTR | ECONNREFUSED | ECONNRESET | EAGAIN | ENOMEM
  | other (n : Nat)
  deriving DecidableEq, Repr

/-- `rtError`. A failed call leaves a nonzero `errno`, so `rtErrorFromErrno` is
    the constructor `errno`. -/
inductive RtError where
  | ok | fail | invalidArg | propertyNotFound | timeout | streamClosed
  | errno (e : Errno)
  deriving DecidableEq, Repr

def rtErrorFromErrno (e : Errno) : RtError := .errno e

/-! Strings. -/

/-- The C string that starts where `bs` does: the bytes up to the first NUL. -/
def cstr (bs : Bytes) : Bytes := bs.takeWhile (· != 0)

theorem cstr_append_zeros (s : Bytes) (k : Nat) : cstr (s ++ List.replicate k 0) = cstr s := by
  induction s with
  | nil => cases k <;> simp [cstr, List.replicate_succ]
  | cons b s ih =>
    simp only [cstr, List.cons_append, List.takeWhile_cons] at ih ⊢
    split
    · rw [ih]
    · rfl

theorem cstr_of_not_mem {s : Bytes} (h : 0 ∉ s) : cstr s = s := by
  refine List.takeWhile_eq_self_iff.mpr fun b hb => ?_
  simp only [bne_iff_ne]
  exact fun e => h (e ▸ hb)

theorem cstr_append {s : Bytes} (h : 0 ∉ s) (t : Bytes) : cstr (s ++ t) = s ++ cstr t := by
  refine List.takeWhile_append_of_pos fun b hb => ?_
  simp only [bne_iff_ne]
  exact fun e => h (e ▸ hb)

theorem cstr_pad {s : Bytes} (h : 0 ∉ s) (k : Nat) : cstr (s ++ List.replicate k 0) = s := by
  rw [cstr_append_zeros, cstr_of_not_mem h]

theorem cstr_append_of_mem {s : Bytes} (h : 0 ∈ s) (t : Bytes) : cstr (s ++ t) = cstr s := by
  obtain ⟨pre, post, rfl, hpre⟩ := List.eq_append_cons_of_mem h
  rw [List.append_assoc, cstr_append hpre, cstr_append hpre]
  rfl

theorem zero_not_mem_cstr (bs : Bytes) : 0 ∉ cstr bs := by
  intro h
  have := List.mem_takeWhile_imp h
  simp at this

theorem cstr_length_lt {bs : Bytes} (h : 0 ∈ bs) : (cstr bs).length < bs.length := by
  refine Nat.lt_of_le_of_ne (List.takeWhile_prefix _).length_le fun hlen => ?_
  rw [← (List.takeWhile_prefix _).eq_of_length hlen] at h
  exact zero_not_mem_cstr bs h

theorem cstr_length_le (bs : Bytes) : (cstr bs).length ≤ bs.length :=
  List.IsPrefix.length_le (List.takeWhile_prefix _)

/-- A string in which `c` occurs, split at its last occurrence. -/
theorem eq_append_last {s : Bytes} {c : UInt8} (h : c ∈ s) : ∃ a b, s = a ++ c :: b ∧ c ∉ b := by
  obtain ⟨a, b, hab, hnot⟩ := List.eq_append_cons_of_mem (List.mem_reverse.mpr h)
  refine ⟨b.reverse, a.reverse, ?_, fun hmem => hnot (List.mem_reverse.mp hmem)⟩
  rw [← List.reverse_reverse s, hab]
  simp

/-- `strstr(s, pat) != NULL`. -/
def strstr (s pat : Bytes) : Bool :=
  match s with
  | [] => pat.isEmpty
  | b :: rest => pat.isPrefixOf (b :: rest) || strstr rest pat

/-! Arrays of bytes (`char` and `uint8_t`). -/

structure CArray (n : Nat) where
  data : Bytes
  size_eq : data.length = n
  deriving DecidableEq, Repr

namespace CArray
variable {n : Nat}

theorem ext' {a b : CArray n} (h : a.data = b.data) : a = b := by
  cases a; cases b; simp_all

/-- `memset(a, 0, n)`. -/
def zero (n : Nat) : CArray n := ⟨List.replicate n 0, List.length_replicate⟩

/-- The string the array holds. An array without a NUL is read to its end only. -/
def str (a : CArray n) : Bytes := cstr a.data

/-- `src` stored from index `off` on. -/
def write (a : CArray n) (off : Nat) (src : Bytes) : Except Fault (CArray n) :=
  if h : off + src.length ≤ n then
    .ok ⟨a.data.take off ++ (src ++ a.data.drop (off + src.length)), by
      simp [a.size_eq]; omega⟩
  else .error .undefinedBehaviour

/-- The `len` bytes from index `off` on. -/
def read (a : CArray n) (off len : Nat) : Except Fault Bytes :=
  if off + len ≤ n then .ok ((a.data.drop off).take len) else .error .undefinedBehaviour

def memcpy (a : CArray n) (src : Bytes) : Except Fault (CArray n) := a.write 0 src

def strcpy (a : CArray n) (s : Bytes) : Except Fault (CArray n) := a.memcpy (s ++ [0])

/-- `strncpy(a, s, k)`: at most `k` bytes of `s`, filled up with NULs to `k`. -/
def strncpy (a : CArray n) (s : Bytes) (k : Nat) (hk : k ≤ n) : CArray n :=
  ⟨s.take k ++ List.replicate (k - s.length) 0 ++ a.data.drop k, by
    simp [a.size_eq]; omega⟩

/-- The array that holds `s` and NULs after it. -/
def pad (n : Nat) (s : Bytes) : CArray n := (zero n).strncpy s n (Nat.le_refl n)

theorem pad_data {s : Bytes} (h : s.length ≤ n) :
    (pad n s).data = s ++ List.replicate (n - s.length) 0 := by
  simp [pad, strncpy, zero, List.take_of_length_le h]

@[simp] theorem pad_str {s : Bytes} (h : s.length ≤ n) (h0 : 0 ∉ s) : (pad n s).str = s := by
  rw [str, pad_data h, cstr_pad h0]

@[simp] theorem zero_str : (zero n).str = [] := cstr_append_zeros [] n

theorem terminated_iff (a : CArray n) : 0 ∈ a.data ↔ a.str.length < n := by
  constructor
  · intro h
    calc a.str.length < a.data.length := cstr_length_lt h
      _ = n := a.size_eq
  · intro h
    by_contra hnul
    rw [str, cstr_of_not_mem hnul, a.size_eq] at h
    exact Nat.lt_irrefl n h

theorem write_ok (a : CArray n) (off : Nat) (src : Bytes) (h : off + src.length ≤ n) :
    ∃ b, a.write off src = .ok b ∧
      b.data = a.data.take off ++ (src ++ a.data.drop (off + src.length)) := by
  simp [write, h]

theorem write_eq_ok {a b : CArray n} {off : Nat} {src : Bytes} (h : a.write off src = .ok b) :
    off + src.length ≤ n ∧
      b.data = a.data.take off ++ (src ++ a.data.drop (off + src.length)) := by
  unfold write at h
  split at h
  · next hle => cases h; exact ⟨hle, rfl⟩
  · cases h

theorem write_append {a b : CArray n} {off : Nat} {x : Bytes} (h : a.write off x = .ok b)
    (y : Bytes) : b.write (off + x.length) y = a.write off (x ++ y) := by
  obtain ⟨hle, hb⟩ := write_eq_ok h
  by_cases hroom : off + x.length + y.length ≤ n
  · obtain ⟨c, hc, hcd⟩ := write_ok b (off + x.length) y hroom
    obtain ⟨d, hd, hdd⟩ := write_ok a off (x ++ y) (by simpa [Nat.add_assoc] using hroom)
    rw [hc, hd]
    congr 1
    apply ext'
    have hfront : (a.data.take off ++ x).length = off + x.length := by
      rw [List.length_append, List.length_take, a.size_eq]
      omega
    rw [← List.append_assoc] at hb
    rw [hcd, hdd, hb, List.take_left' hfront, List.drop_append, hfront,
      List.drop_of_length_le (by omega), List.nil_append, List.drop_drop]
    simp only [List.append_assoc, List.length_append]
    congr 4
    omega
  · rw [write, dif_neg hroom, write, dif_neg]
    rw [List.length_append]
    omega

theorem write_nil {a : CArray n} {off : Nat} (h : off ≤ n) : a.write off [] = .ok a := by
  obtain ⟨b, hb, hd⟩ := write_ok a off [] h
  rw [hb]
  congr 1
  apply ext'
  simpa using hd

theorem memcpy_zero {s : Bytes} (h : s.length ≤ n) : (zero n).memcpy s = .ok (pad n s) := by
  obtain ⟨b, hb, hd⟩ := write_ok (zero n) 0 s (by omega)
  rw [memcpy, hb]
  congr 1
  apply ext'
  rw [hd, pad_data h]
  simp [zero]

theorem strcpy_zero {s : Bytes} (h : s.length < n) : (zero n).strcpy s = .ok (pad n s) := by
  obtain ⟨b, hb, hd⟩ := write_ok (zero n) 0 (s ++ [0]) (by simp; omega)
  rw [strcpy, memcpy, hb]
  congr 1
  apply ext'
  rw [hd, pad_data (by omega), show n - s.length = (n - (s.length + 1)) + 1 by omega,
    List.replicate_succ]
  simp [zero]

end CArray

end RtMessage
