import RtMessage.Lib.Loop
import RtMessage.DataProvider.Utility

/- The loop of `dmUtility::splitString`, with its indices of type `size_t`.

   Behind the last delimiter `find` returns `npos`, and `n2-n1` then takes in all that is left;
   behind a delimiter at the end nothing is left, and `substr` at the end position is empty. The
   loop is that of `splitString` on lists (`splitStringInto_eq`), whose tokens are joined to the
   string again (`split_string_inverse`). -/
namespace RtMessage.DataProvider
open Lib

/-! The string. -/

/-- `std::string::npos`, the largest `size_t`. -/
def npos : Nat := 2^64 - 1

/-- A `std::string`. The largest length it may have is below `npos`. -/
structure StdString where
  data : Bytes
  length_lt : data.length < npos

namespace StdString

def length (s : StdString) : Nat := s.data.length

/-- `find(c, pos)`. -/
def find (s : StdString) (c : UInt8) (pos : Nat) : Nat :=
  match DataProvider.find (s.data.drop pos) c with
  | some k => pos + k
  | none => npos

/-- `substr(pos, n)`, which throws `out_of_range`. Nobody catches it. -/
def substr (s : StdString) (pos n : Nat) : Except Fault Bytes :=
  if s.length < pos then .error .abort else .ok ((s.data.drop pos).take n)

theorem substr_of_le {s : StdString} {pos : Nat} (h : pos ≤ s.length) (n : Nat) :
    s.substr pos n = .ok ((s.data.drop pos).take n) := by
  rw [substr, if_neg (by omega)]

end StdString

/-- The difference of two numbers of type `size_t`. -/
def sizeSub (a b : Nat) : Nat := (a + 2^64 - b) % 2^64

/-! The loop. -/

structure Splitting where
  n1 : Nat
  n2 : Nat
  out : List Bytes
  stopped : Bool

def Splitting.goesOn (st : Splitting) : Bool := !st.stopped

def Splitting.turn (s : StdString) (delim : UInt8) (st : Splitting) : Except Fault Splitting := do
  let token ← s.substr st.n1 (sizeSub st.n2 st.n1)
  let st := { st with out := st.out ++ [token] }
  if st.n2 = npos ∨ sizeSub s.length 1 < st.n2 then return { st with stopped := true }
  else
    let n1 := (st.n2 + 1) % 2^64
    return { st with n1, n2 := s.find delim n1 }

/-- What `out` holds in the end; `fuel` bounds the turns. -/
def splitStringInto (fuel : Nat) (s : StdString) (delim : UInt8) (out : List Bytes) :
    Except Fault (List Bytes) := do
  let st ← loop .outOfFuel Splitting.goesOn (Splitting.turn s delim) fuel
    ⟨0, s.find delim 0, out, false⟩
  return st.out

/-! A turn, at a position that is not behind the end. -/

section Turn
variable {s : StdString} {delim : UInt8} {n1 : Nat} {out : List Bytes} {a rest : Bytes}

theorem turn_last (hrest : s.data.drop n1 = rest) (hle : n1 ≤ s.length) (hnot : delim ∉ rest) :
    Splitting.turn s delim ⟨n1, s.find delim n1, out, false⟩ =
      .ok ⟨n1, npos, out ++ [rest], true⟩ := by
  have hfind : s.find delim n1 = npos := by rw [StdString.find, hrest, find_eq_none hnot]
  -- `npos - n1` is no less than what is left, and nothing wraps around
  have hlong : rest.length ≤ sizeSub npos n1 := by
    have hlt := s.length_lt
    rw [← hrest, List.length_drop]
    unfold StdString.length at hle
    unfold npos at hlt
    unfold sizeSub npos
    omega
  unfold Splitting.turn
  dsimp only
  rw [hfind, StdString.substr_of_le hle, hrest, List.take_of_length_le hlong]
  rfl

/-- A token in front of a delimiter, and the search goes on behind it. -/
theorem turn_next (hrest : s.data.drop n1 = a ++ delim :: rest) (hnot : delim ∉ a) :
    Splitting.turn s delim ⟨n1, s.find delim n1, out, false⟩ =
      .ok ⟨n1 + a.length + 1, s.find delim (n1 + a.length + 1), out ++ [a], false⟩ := by
  have hfind : s.find delim n1 = n1 + a.length := by rw [StdString.find, hrest, find_append hnot]
  have hroom : n1 + a.length + 1 + rest.length = s.data.length := by
    have hlen := congrArg List.length hrest
    rw [List.length_drop, List.length_append, List.length_cons] at hlen
    omega
  have hlt := s.length_lt
  unfold npos at hlt
  have hspan : sizeSub (n1 + a.length) n1 = a.length := by
    unfold sizeSub
    omega
  -- there is a delimiter, so the string is not empty and its length less one is the last index
  have hstays : ¬ (n1 + a.length = npos ∨ sizeSub s.length 1 < n1 + a.length) := by
    unfold npos sizeSub StdString.length
    omega
  have hnext : (n1 + a.length + 1) % 2^64 = n1 + a.length + 1 := by omega
  have htoken : (a ++ delim :: rest).take a.length = a := List.take_left
  have hle : n1 ≤ s.length := by
    unfold StdString.length
    omega
  unfold Splitting.turn
  dsimp only
  rw [hfind, StdString.substr_of_le hle, hspan, hrest, htoken, ok_bind, if_neg hstays, hnext]
  rfl

end Turn

/-! A run. -/

section Run
variable {s : StdString} {delim : UInt8}

/-- From a position on, the loop puts out the tokens of what is left, in a turn for each. -/
theorem split_loop (more : Nat) : ∀ (turns n1 : Nat) (out : List Bytes), n1 ≤ s.length →
    (s.data.drop n1).count delim = turns →
    ∃ st, loop .outOfFuel Splitting.goesOn (Splitting.turn s delim) (turns + 1 + more)
        ⟨n1, s.find delim n1, out, false⟩ = .ok st ∧
      st.out = out ++ (s.data.drop n1).splitOn delim := by
  intro turns
  induction turns with
  | zero =>
    intro n1 out hle hcount
    have hnot : delim ∉ s.data.drop n1 := List.count_eq_zero.mp hcount
    refine ⟨⟨n1, npos, out ++ [s.data.drop n1], true⟩, ?_, ?_⟩
    · rw [Nat.add_right_comm, loop_step rfl (turn_last rfl hle hnot)]
      exact loop_done rfl _
    · rw [List.splitOn_eq_singleton hnot]
  | succ turns ih =>
    intro n1 out hle hcount
    have hmem : delim ∈ s.data.drop n1 := List.count_pos_iff.mp (by omega)
    obtain ⟨a, rest, hrest, hnot⟩ := List.eq_append_cons_of_mem hmem
    have hdrop : s.data.drop (n1 + a.length + 1) = rest := by
      rw [Nat.add_assoc, ← List.drop_drop, hrest, drop_append_cons]
    have hleft : (s.data.drop (n1 + a.length + 1)).count delim = turns := by
      rw [hrest, List.count_append, List.count_eq_zero.mpr hnot, List.count_cons_self] at hcount
      rw [hdrop]
      omega
    have hroom : n1 + a.length + 1 ≤ s.length := by
      have hlen := congrArg List.length hrest
      rw [List.length_drop, List.length_append, List.length_cons] at hlen
      unfold StdString.length
      omega
    obtain ⟨st, hst, hout⟩ := ih (n1 + a.length + 1) (out ++ [a]) hroom hleft
    refine ⟨st, ?_, ?_⟩
    · rw [Nat.add_right_comm (turns + 1), loop_step rfl (turn_next hrest hnot), ← hst]
    · rw [hout, hdrop, hrest, List.splitOn_append_cons_self_of_not_mem hnot, List.append_assoc]
      rfl

end Run

theorem splitStringInto_eq (s : StdString) (delim : UInt8) (out : List Bytes) (more : Nat) :
    splitStringInto (s.data.count delim + 1 + more) s delim out =
      .ok (out ++ splitString s.data delim) := by
  obtain ⟨st, hst, hout⟩ := split_loop more (s.data.count delim) 0 out (Nat.zero_le _) rfl
  rw [splitStringInto, hst, ok_bind, hout, splitString_eq_splitOn]
  rfl

/-! The tokens. -/

section Tokens
variable {α : Type} [DecidableEq α]

theorem length_splitOn (c : α) (xs : List α) : (xs.splitOn c).length = xs.count c + 1 := by
  induction xs with
  | nil => rfl
  | cons x xs ih =>
    rw [List.splitOn_cons_eq_if_modifyHead, List.count_cons]
    by_cases hx : (x == c) = true
    · rw [if_pos hx, if_pos hx, List.length_cons, ih]
    · rw [if_neg hx, if_neg hx, List.length_modifyHead, ih, Nat.add_zero]

theorem not_mem_of_mem_splitOn {c : α} {xs t : List α} (h : t ∈ xs.splitOn c) : c ∉ t := by
  induction xs generalizing t with
  | nil =>
    obtain rfl := List.mem_singleton.mp h
    exact List.not_mem_nil
  | cons x xs ih =>
    rw [List.splitOn_cons_eq_if_modifyHead] at h
    by_cases hx : (x == c) = true
    · rw [if_pos hx, List.mem_cons] at h
      obtain rfl | h := h
      · exact List.not_mem_nil
      · exact ih h
    · obtain ⟨first, others, hsplit⟩ := List.exists_cons_of_ne_nil (List.splitOn_ne_nil c xs)
      rw [if_neg hx, hsplit, List.modifyHead_cons, List.mem_cons] at h
      obtain rfl | h := h
      · rw [List.mem_cons, not_or]
        refine ⟨fun heq => hx (beq_iff_eq.mpr heq.symm), ih ?_⟩
        rw [hsplit]
        exact List.mem_cons_self
      · refine ih ?_
        rw [hsplit]
        exact List.mem_cons_of_mem _ h

end Tokens

/-- **Splitting is the inverse of joining.** -/
theorem split_string_inverse (s : StdString) (delim : UInt8) (out : List Bytes) :
    ∃ tokens, (∀ more, splitStringInto (s.data.count delim + 1 + more) s delim out =
        .ok (out ++ tokens)) ∧
      tokens.length = s.data.count delim + 1 ∧ (∀ t ∈ tokens, delim ∉ t) ∧
      [delim].intercalate tokens = s.data := by
  refine ⟨splitString s.data delim, splitStringInto_eq s delim out, ?_⟩
  rw [splitString_eq_splitOn]
  exact ⟨length_splitOn delim s.data, fun t => not_mem_of_mem_splitOn,
    List.intercalate_splitOn delim⟩

end RtMessage.DataProvider
