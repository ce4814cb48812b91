import Mathlib.Algebra.Order.Group.Nat
import Mathlib.Tactic.Ring

/- Fixed-width big-endian numbers as bytes. `toBytes w n` is the number `n`
   modulo `256^w` in `w` bytes, most significant first; `ofBytes` reads any
   number of bytes, and what was written back (`ofBytes_toBytes`). -/
namespace Lib.BigEndian

def toBytes : Nat → Nat → List UInt8
  | 0, _ => []
  | w+1, n => UInt8.ofNat (n / 256^w) :: toBytes w n

def ofBytes : List UInt8 → Nat
  | [] => 0
  | b :: bs => b.toNat * 256^bs.length + ofBytes bs

@[simp] theorem toBytes_length (w n : Nat) : (toBytes w n).length = w := by
  induction w with
  | zero => rfl
  | succ w ih => simp [toBytes, ih]

theorem ofBytes_lt (bs : List UInt8) : ofBytes bs < 256^bs.length := by
  induction bs with
  | nil => simp [ofBytes]
  | cons b bs ih =>
    have hb : b.toNat + 1 ≤ 256 := b.toNat_lt
    calc ofBytes (b :: bs) < b.toNat * 256^bs.length + 256^bs.length := by
          simp only [ofBytes]; omega
      _ = (b.toNat + 1) * 256^bs.length := by ring
      _ ≤ 256 * 256^bs.length := Nat.mul_le_mul_right _ hb
      _ = 256^(b :: bs).length := by rw [List.length_cons, Nat.pow_succ, Nat.mul_comm]

theorem ofBytes_toBytes (w n : Nat) : ofBytes (toBytes w n) = n % 256^w := by
  induction w with
  | zero => simp [toBytes, ofBytes, Nat.mod_one]
  | succ w ih =>
    have hd : (UInt8.ofNat (n / 256^w)).toNat = n / 256^w % 256 := by simp
    simp only [toBytes, ofBytes, toBytes_length, ih, hd]
    rw [Nat.pow_succ, Nat.mod_mul, Nat.add_comm, Nat.mul_comm]

theorem ofBytes_toBytes_of_lt {w n : Nat} (h : n < 256^w) : ofBytes (toBytes w n) = n := by
  rw [ofBytes_toBytes, Nat.mod_eq_of_lt h]

/-- A number has one form of each width. -/
theorem ofBytes_inj {a b : List UInt8} (hlen : a.length = b.length) (h : ofBytes a = ofBytes b) :
    a = b := by
  induction a generalizing b with
  | nil => exact (List.length_eq_zero_iff.mp hlen.symm).symm
  | cons x a ih =>
    obtain ⟨y, b, rfl⟩ := List.exists_cons_of_length_eq_add_one hlen.symm
    have hrest : a.length = b.length := Nat.succ.inj hlen
    simp only [ofBytes, ← hrest] at h
    have ha := ofBytes_lt a
    have hb : ofBytes b < 256^a.length := hrest ▸ ofBytes_lt b
    -- the first byte is the quotient, the rest is the remainder
    have hquotient := congrArg (· / 256^a.length) h
    have hremainder := congrArg (· % 256^a.length) h
    simp only [Nat.mul_add_mod_self_right, Nat.mod_eq_of_lt ha, Nat.mod_eq_of_lt hb] at hremainder
    have hpos : 0 < 256^a.length := Nat.lt_of_le_of_lt (Nat.zero_le _) ha
    simp only [Nat.mul_comm _ (256^a.length), Nat.mul_add_div hpos, Nat.div_eq_of_lt ha,
      Nat.div_eq_of_lt hb, Nat.add_zero] at hquotient
    rw [UInt8.toNat_inj.mp hquotient, ih hrest hremainder]

theorem toBytes_ofBytes (bs : List UInt8) : toBytes bs.length (ofBytes bs) = bs := by
  apply ofBytes_inj
  · rw [toBytes_length]
  · rw [ofBytes_toBytes, Nat.mod_eq_of_lt (ofBytes_lt bs)]

end Lib.BigEndian
